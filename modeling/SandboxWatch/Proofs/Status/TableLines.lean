import Mathlib.Data.List.Forall2
import SandboxWatch.Proofs.Text.ByteOrder
import SandboxWatch.Status.Table

/-!
# SandboxWatch.Proofs.Status.TableLines

The lines of the table. A message is written as it is, so that each line feed in it begins a line
that no service stands for; apart from these there is one line for every service.

* `Text.HasLines`   — a text consists of these lines, each of them ended by a line feed.
* `Table.Tabulates` — a text has one line for every service.
* `Table.tabulates_render_iff` — when the table is of this kind, and how many lines it has.
* `Table.forged_row` — a message that looks like the row of another service.
-/

namespace SandboxWatch

/-! ## Lines -/

namespace Text

structure HasLines (text : String) (lines : List String) : Prop where
  joined : text = String.join (lines.map (· ++ "\n"))
  unbroken : ∀ line ∈ lines, '\n' ∉ line.toList

/-- Every line has the line feed that ends it, and those within it. -/
theorem count_join (lines : List String) :
    (String.join (lines.map (· ++ "\n"))).toList.count '\n' =
      lines.length + (lines.flatMap String.toList).count '\n' := by
  induction lines with
  | nil => rfl
  | cons line rest ih =>
    rw [List.map_cons, String.join_cons, String.toList_append, String.toList_append,
      List.count_append, List.count_append, ih, List.flatMap_cons, List.count_append,
      List.length_cons]
    have hend : "\n".toList.count '\n' = 1 := rfl
    omega

theorem HasLines.count_eq {text : String} {lines : List String} (h : HasLines text lines) :
    text.toList.count '\n' = lines.length := by
  have hzero : (lines.flatMap String.toList).count '\n' = 0 := by
    rw [List.count_eq_zero, List.mem_flatMap]
    rintro ⟨line, hline, hmem⟩
    exact h.unbroken line hline hmem
  rw [h.joined, count_join, hzero, Nat.add_zero]

end Text

namespace Table

open Text

/-! ## What a table should be -/

def title (ns : String) (phase : SandboxPhase) : String := ns ++ ": " ++ phase.text

def heads : String := "  SERVICE              PHASE                  STARTED  MESSAGE"

/-- A title, and below it, if there are services, a line of column heads and one line for every
service in turn, which begins with two blanks, the name and a blank. -/
structure Tabulates (ns : String) (s : SandboxStatus) (text : String) : Prop where
  alone : s.services = ∅ → HasLines text [title ns s.phase]
  rows : s.services ≠ ∅ → ∃ rows, HasLines text (title ns s.phase :: heads :: rows) ∧
    List.Forall₂ (fun e row => ∃ rest, row = "  " ++ e.1 ++ " " ++ rest) s.services.toList rows

/-- No message breaks a line. -/
def Unbroken (s : SandboxStatus) : Prop :=
  ∀ (name : String) (service : ServiceStatus) (message : String),
    s.services[name]? = some service → service.message = some message → '\n' ∉ message.toList

/-- How many line feeds there are in the messages. -/
def messageBreaks (s : SandboxStatus) : Nat :=
  (s.services.toList.flatMap fun e => (e.2.message.getD "").toList).count '\n'

/-! ## What the table is -/

/-- What stands before the message. -/
def rowStart (name : String) (s : ServiceStatus) : String :=
  "  " ++ cell 20 name ++ " " ++ cell 22 s.phase.text ++ " " ++
    cell 8 (if s.hasStarted then "yes" else "no") ++ " "

def serviceLine (name : String) (s : ServiceStatus) : String :=
  rowStart name s ++ s.message.getD "-"

/-- The lines of the table, which a message may break. -/
def linesOf (ns : String) (s : SandboxStatus) : List String :=
  title ns s.phase ::
    if s.services = ∅ then [] else heads :: s.services.toList.map fun e => serviceLine e.1 e.2

theorem serviceRow_eq (name : String) (s : ServiceStatus) :
    serviceRow name s = serviceLine name s ++ "\n" := by
  simp only [serviceRow, row, serviceLine, rowStart, String.append_assoc]

theorem cell_append_blank (width : Nat) (text : String) :
    cell width text ++ " " =
      text ++ " " ++ String.ofList (List.replicate (width - text.length) ' ') := by
  refine String.toList_injective ?_
  simp only [cell, String.toList_append, String.toList_ofList, List.append_assoc]
  rw [show " ".toList = List.replicate 1 ' ' from rfl, List.replicate_append_replicate,
    List.replicate_append_replicate, Nat.add_comm]

theorem serviceLine_begins (name : String) (s : ServiceStatus) :
    ∃ rest, serviceLine name s = "  " ++ name ++ " " ++ rest := by
  have hstart : "  " ++ cell 20 name ++ " " =
      "  " ++ name ++ " " ++ String.ofList (List.replicate (20 - name.length) ' ') := by
    rw [String.append_assoc, cell_append_blank]
    simp only [String.append_assoc]
  rw [serviceLine, rowStart, hstart]
  simp only [String.append_assoc]
  exact ⟨_, rfl⟩

theorem row_heads : row "SERVICE" "PHASE" "STARTED" "MESSAGE" = heads ++ "\n" := by decide +kernel

theorem foldl_append (entries : List (String × ServiceStatus)) (out : String) :
    entries.foldl (fun out e => out ++ serviceRow e.1 e.2) out =
      out ++ String.join (entries.map fun e => serviceLine e.1 e.2 ++ "\n") := by
  induction entries generalizing out with
  | nil => simp
  | cons e rest ih =>
    rw [List.foldl_cons, ih, List.map_cons, String.join_cons, serviceRow_eq]
    simp only [String.append_assoc]

theorem render_eq_join (ns : String) (s : SandboxStatus) :
    render ns s = String.join ((linesOf ns s).map (· ++ "\n")) := by
  by_cases h : s.services = ∅
  · have hempty : s.services.isEmpty = true := by rw [h]; rfl
    rw [render, linesOf, if_pos hempty, if_pos h]
    simp [title]
  · have hempty : ¬s.services.isEmpty = true := mt Std.ExtTreeMap.isEmpty_iff.mp h
    rw [render, linesOf, if_neg hempty, if_neg h, foldl_append, row_heads]
    simp only [title, List.map_cons, List.map_map, String.join_cons, String.append_assoc]
    rfl

/-! ## Line feeds -/

theorem text_unbroken (p : ServicePhase) : '\n' ∉ p.text.toList := by
  cases p <;> simp [ServicePhase.text]

theorem title_unbroken {ns : String} (hns : '\n' ∉ ns.toList) (phase : SandboxPhase) :
    '\n' ∉ (title ns phase).toList := by
  have hphase : '\n' ∉ (": " ++ phase.text).toList := by cases phase <;> simp [SandboxPhase.text]
  rw [title, String.append_assoc, String.toList_append, List.mem_append]
  exact not_or.mpr ⟨hns, hphase⟩

theorem heads_unbroken : '\n' ∉ heads.toList := by simp [heads]

theorem cell_unbroken {width : Nat} {text : String} (h : '\n' ∉ text.toList) :
    '\n' ∉ (cell width text).toList := by
  simp [cell, h, List.mem_replicate]

theorem rowStart_unbroken {name : String} (hname : '\n' ∉ name.toList) (s : ServiceStatus) :
    '\n' ∉ (rowStart name s).toList := by
  have hstarted : '\n' ∉ (if s.hasStarted then "yes" else "no").toList := by
    cases s.hasStarted <;> simp
  simp [rowStart, cell_unbroken hname, cell_unbroken (text_unbroken s.phase),
    cell_unbroken hstarted]

/-- Only the message can break the line of a service. -/
theorem count_serviceLine {name : String} (hname : '\n' ∉ name.toList) (s : ServiceStatus) :
    (serviceLine name s).toList.count '\n' = (s.message.getD "").toList.count '\n' := by
  have hmessage : (s.message.getD "-").toList.count '\n' =
      (s.message.getD "").toList.count '\n' := by
    cases s.message with
    | none => rfl
    | some m => rfl
  rw [serviceLine, String.toList_append, List.count_append,
    List.count_eq_zero.mpr (rowStart_unbroken hname s), Nat.zero_add, hmessage]

theorem count_serviceLines {entries : List (String × ServiceStatus)}
    (hnames : ∀ e ∈ entries, '\n' ∉ e.1.toList) :
    ((entries.map fun e => serviceLine e.1 e.2).flatMap String.toList).count '\n' =
      (entries.flatMap fun e => (e.2.message.getD "").toList).count '\n' := by
  induction entries with
  | nil => rfl
  | cons e rest ih =>
    obtain ⟨hname, hnames⟩ := List.forall_mem_cons.mp hnames
    rw [List.map_cons, List.flatMap_cons, List.flatMap_cons, List.count_append, List.count_append,
      count_serviceLine hname, ih hnames]

section Render

variable {ns : String} {s : SandboxStatus}

theorem name_unbroken (hnames : ∀ name ∈ s.services, '\n' ∉ name.toList)
    {e : String × ServiceStatus} (he : e ∈ s.services.toList) : '\n' ∉ e.1.toList := by
  have hlookup := Std.ExtTreeMap.mem_toList_iff_getElem?_eq_some.mp he
  exact hnames e.1 (Std.ExtTreeMap.mem_iff_isSome_getElem?.mpr (by rw [hlookup]; rfl))

theorem messageBreaks_eq_zero_iff : messageBreaks s = 0 ↔ Unbroken s := by
  rw [messageBreaks, List.count_eq_zero, List.mem_flatMap]
  constructor
  · intro h name service message hlookup hmessage hbreak
    have hmem := Std.ExtTreeMap.mem_toList_iff_getElem?_eq_some.mpr hlookup
    exact h ⟨_, hmem, by simpa [hmessage] using hbreak⟩
  · rintro h ⟨⟨name, service⟩, hmem, hbreak⟩
    have hlookup := Std.ExtTreeMap.mem_toList_iff_getElem?_eq_some.mp hmem
    cases hmessage : service.message with
    | none => simp [hmessage] at hbreak
    | some message =>
      exact h name service message hlookup hmessage (by simpa [hmessage] using hbreak)

theorem length_linesOf :
    (linesOf ns s).length = if s.services = ∅ then 1 else 2 + s.services.size := by
  rw [linesOf]
  split
  · rfl
  · simp only [List.length_cons, List.length_map, Std.ExtTreeMap.length_toList]
    omega

/-- All line feeds within the lines are those of the messages. -/
theorem count_linesOf (hns : '\n' ∉ ns.toList) (hnames : ∀ name ∈ s.services, '\n' ∉ name.toList) :
    ((linesOf ns s).flatMap String.toList).count '\n' = messageBreaks s := by
  have htitle := List.count_eq_zero.mpr (title_unbroken hns s.phase)
  have hheads := List.count_eq_zero.mpr heads_unbroken
  rw [linesOf, List.flatMap_cons, List.count_append, htitle, Nat.zero_add, messageBreaks]
  split
  · rename_i hempty
    rw [hempty]
    rfl
  · rw [List.flatMap_cons, List.count_append, hheads, Nat.zero_add,
      count_serviceLines fun e he => name_unbroken hnames he]

/-- The table has a line for the title, one for the column heads, one for every service, and one for
every line feed in a message. -/
theorem count_render (hns : '\n' ∉ ns.toList) (hnames : ∀ name ∈ s.services, '\n' ∉ name.toList) :
    (render ns s).toList.count '\n' =
      (if s.services = ∅ then 1 else 2 + s.services.size) + messageBreaks s := by
  rw [render_eq_join, count_join, length_linesOf, count_linesOf hns hnames]

theorem hasLines_render (hns : '\n' ∉ ns.toList) (hnames : ∀ name ∈ s.services, '\n' ∉ name.toList)
    (h : Unbroken s) : HasLines (render ns s) (linesOf ns s) := by
  refine ⟨render_eq_join ns s, fun line hline hbreak => ?_⟩
  have hcount := (count_linesOf hns hnames).trans (messageBreaks_eq_zero_iff.mpr h)
  exact List.count_eq_zero.mp hcount (List.mem_flatMap.mpr ⟨line, hline, hbreak⟩)

theorem tabulates_of_unbroken (hns : '\n' ∉ ns.toList)
    (hnames : ∀ name ∈ s.services, '\n' ∉ name.toList) (h : Unbroken s) :
    Tabulates ns s (render ns s) := by
  have hlines := hasLines_render hns hnames h
  constructor
  · intro hempty
    rwa [linesOf, if_pos hempty] at hlines
  · intro hne
    rw [linesOf, if_neg hne] at hlines
    exact ⟨_, hlines,
      List.forall₂_map_right_iff.mpr (List.forall₂_same.mpr fun e _ => serviceLine_begins e.1 e.2)⟩

theorem Tabulates.unbroken (hns : '\n' ∉ ns.toList)
    (hnames : ∀ name ∈ s.services, '\n' ∉ name.toList) (h : Tabulates ns s (render ns s)) :
    Unbroken s := by
  rw [← messageBreaks_eq_zero_iff]
  have hcount := count_render hns hnames
  by_cases hempty : s.services = ∅
  · rw [messageBreaks, hempty]
    rfl
  · obtain ⟨rows, hlines, hrows⟩ := h.rows hempty
    have hlength : rows.length = s.services.size := by
      rw [← hrows.length_eq, Std.ExtTreeMap.length_toList]
    rw [hlines.count_eq, if_neg hempty, List.length_cons, List.length_cons] at hcount
    omega

end Render

theorem ordered_entries (services : Services) :
    services.toList.Pairwise fun a b => bytes a.1 < bytes b.1 :=
  services.ordered_keys_toList.imp compare_eq_lt_iff.mp

/-- Where neither the namespace nor a name of a service has a line feed, the table has one line for
every service, in the order of the bytes of their names, exactly if no message has a line feed.
Every line feed in a message makes one line more. -/
theorem tabulates_render_iff (ns : String) (s : SandboxStatus) (hns : '\n' ∉ ns.toList)
    (hnames : ∀ name ∈ s.services, '\n' ∉ name.toList) :
    (Tabulates ns s (render ns s) ↔ Unbroken s) ∧
      (render ns s).toList.count '\n' =
        (if s.services = ∅ then 1 else 2 + s.services.size) + messageBreaks s ∧
      s.services.toList.Pairwise fun a b => bytes a.1 < bytes b.1 :=
  ⟨⟨Tabulates.unbroken hns hnames, tabulates_of_unbroken hns hnames⟩, count_render hns hnames,
    ordered_entries s.services⟩

/-- A service that has ended, and one that runs. -/
def twoServices : SandboxStatus :=
  .running <| (∅ : Services)
    |>.insert "web" ((ServiceStatus.ofPhase .running).started true)
    |>.insert "api" ((ServiceStatus.ofPhase .exited).withMessage "boom" |>.started true)

/-- A service that has ended, with a message whose second line is the row of another one. -/
def forgingService : SandboxStatus :=
  .running <| (∅ : Services).insert "api"
    ((ServiceStatus.ofPhase .exited).withMessage
      "boom\n  web                  RUNNING                yes      -" |>.started true)

theorem tabulates_twoServices :
    '\n' ∉ "ns1".toList ∧ (∀ name ∈ twoServices.services, '\n' ∉ name.toList) ∧
      Tabulates "ns1" twoServices (render "ns1" twoServices) := by
  have hnames : ∀ name ∈ twoServices.services, '\n' ∉ name.toList := by
    intro name hname
    have hname : "api" = name ∨ "web" = name := by
      simpa [twoServices, SandboxStatus.running, Std.ExtTreeMap.mem_insert] using hname
    rcases hname with rfl | rfl <;> simp
  have hunbroken : Unbroken twoServices := by
    rw [← messageBreaks_eq_zero_iff]
    decide +kernel
  have hns : '\n' ∉ "ns1".toList := by simp
  exact ⟨hns, hnames, (tabulates_render_iff "ns1" twoServices hns hnames).1.mpr hunbroken⟩

/-- The table of one service is that of two: the line that its message breaks off begins with two
blanks and the name of a service that is not there. -/
theorem forged_row :
    ¬Tabulates "ns1" forgingService (render "ns1" forgingService) ∧
      render "ns1" forgingService = render "ns1" twoServices := by
  refine ⟨fun h => ?_, by decide +kernel⟩
  have hnames : ∀ name ∈ forgingService.services, '\n' ∉ name.toList := by
    intro name hname
    have hname : "api" = name := by
      simpa [forgingService, SandboxStatus.running, Std.ExtTreeMap.mem_insert] using hname
    subst hname
    simp
  have hbreaks : messageBreaks forgingService = 0 :=
    messageBreaks_eq_zero_iff.mpr (h.unbroken (by simp) hnames)
  exact absurd hbreaks (by decide +kernel)

end Table
end SandboxWatch
