import SandboxWatch.Proofs.Json.Readback
import SandboxWatch.Status.Wire

/-!
# SandboxWatch.Proofs.Json.Typed

Values of a type that are written and read again, as JSON values and as texts.

* `Json.readAs`     — reads a value of a type from a text.
* `RoundTrips`      — what is written is read as what it was, in both forms; `RoundTrips.of_plain`
  says that the texts follow from the values.
* `mapOf?_ofMap`    — maps, given that their values are read as what they were.
-/

namespace SandboxWatch
namespace Json

variable {α : Type} {write : α → Json} {read : Json → Option α}

/-- A value of a type from a whole text. -/
def readAs (read : Json → Option α) (text : String) : Option α :=
  (Json.read text).toOption.bind read

/-- Every value is read as itself from the JSON value that it is written as, and from the compact
text of that. -/
structure RoundTrips (write : α → Json) (read : Json → Option α) : Prop where
  value (a : α) : read (write a) = some a
  text (a : α) : readAs read (write a).compact = some a

theorem RoundTrips.of_plain (hplain : ∀ a, Plain Reader.maxDepth (write a))
    (hvalue : ∀ a, read (write a) = some a) : RoundTrips write read where
  value := hvalue
  text a := by
    rw [readAs, read_compact (hplain a)]
    exact hvalue a

theorem allOf?_map {β γ : Type} {f : β → Option γ} {as : List γ} {g : γ → β}
    (h : ∀ a ∈ as, f (g a) = some a) : allOf? f (as.map g) = some as := by
  induction as with
  | nil => rfl
  | cons a as ih =>
    have has := ih fun b hb => h b (by simp [hb])
    simp [allOf?, h a (by simp), has]

/-- A map is made of its entries. -/
theorem foldl_insert_toList (map : NameMap α) :
    map.toList.foldl (fun map e => map.insert e.1 e.2) ∅ = map := by
  have hfold : map.toList.foldl (fun map e => map.insert e.1 e.2) ∅ =
      Std.ExtTreeMap.ofList map.toList := Std.ExtTreeMap.ofList_eq_foldl.symm
  rw [hfold]
  apply Std.ExtTreeMap.ext_getElem?
  intro name
  cases h : map[name]? with
  | some a =>
    have hmem : (name, a) ∈ map.toList := Std.ExtTreeMap.mem_toList_iff_getElem?_eq_some.2 h
    exact Std.ExtTreeMap.getElem?_ofList_of_mem (by simp) Std.ExtTreeMap.distinct_keys_toList hmem
  | none =>
    apply Std.ExtTreeMap.getElem?_ofList_of_contains_eq_false
    have hmissing : name ∉ map := by simpa using h
    simpa [Std.ExtTreeMap.map_fst_toList_eq_keys] using hmissing

theorem mapOf?_ofMap (h : ∀ a, read (write a) = some a) (map : NameMap α) :
    mapOf? read (ofMap write map) = some map := by
  have hentries : allOf? (fun (m : String × Json) => (read m.2).map (m.1, ·))
      (map.toList.map fun e => (e.1, write e.2)) = some map.toList :=
    allOf?_map fun e _ => by simp [h]
  simp only [ofMap, mapOf?, hentries, Option.map_some, foldl_insert_toList]

theorem plain_ofMap {depth : Nat} (h : ∀ a, Plain depth (write a)) (map : NameMap α) :
    Plain (depth + 1) (ofMap write map) := by
  have hnames : (map.toList.map fun e => e.1).Nodup := by
    have hdistinct := Std.ExtTreeMap.distinct_keys_toList (t := map)
    exact List.pairwise_map.2 (hdistinct.imp fun hne heq => hne (by simp [heq]))
  refine .obj (by rw [List.map_map]; exact hnames) fun m hm => ?_
  obtain ⟨e, -, rfl⟩ := List.mem_map.1 hm
  exact h e.2

end Json
end SandboxWatch
