import SandboxWatch.Proofs.Json.Numbers
import SandboxWatch.Proofs.Json.Strings

/-!
# SandboxWatch.Proofs.Json.Readback

The compact text of a value is read as that value.

* `Json.Plain`          — values that a text can say exactly: no fractions, no name twice, nested
  to a limit.
* `scalar_chars`        — a value without parts, from the front of a text.
* `each_separated`      — parts with commas between them, for arrays and objects alike.
* `value_chars`         — any plain value, whatever follows it.
* `Json.read_compact`   — a whole text.
* `Json.printable_compact` — no control stands in it, so it is a single line.
-/

namespace SandboxWatch.Json

/-- A value of whole numbers within 64 bits whose arrays and objects are nested to the given depth
at most and whose objects hold no name twice. -/
inductive Plain : Nat → Json → Prop where
  | null {depth : Nat} : Plain depth .null
  | bool {depth : Nat} (b : Bool) : Plain depth (.bool b)
  | int {depth : Nat} {i : Int} (hlow : -9223372036854775808 ≤ i) (hhigh : i < UInt64.size) :
      Plain depth (.int i)
  | str {depth : Nat} (s : String) : Plain depth (.str s)
  | arr {depth : Nat} {items : List Json} (hitems : ∀ v ∈ items, Plain depth v) :
      Plain (depth + 1) (.arr items)
  | obj {depth : Nat} {ms : Members} (hnames : (ms.map Prod.fst).Nodup)
      (hvalues : ∀ m ∈ ms, Plain depth m.2) : Plain (depth + 1) (.obj ms)

/-! ## Steps of a reader -/

theorem bind_ok {α β : Type} {x : Reader α} {f : α → Reader β} {cs cs' : List Char} {a : α}
    (h : x cs = .ok (a, cs')) : (x >>= f) cs = f a cs' := by
  simp only [bind, StateT.bind, h, Except.bind]

theorem peek_cons {c : Char} (h : isSpace c = false) (rest : List Char) :
    Reader.peek (c :: rest) = .ok (c, c :: rest) := by
  simp [Reader.peek, h]

theorem advance_cons (c : Char) (rest : List Char) : Reader.advance (c :: rest) = .ok ((), rest) :=
  rfl

theorem get_ok (cs : List Char) : (get : Reader (List Char)) cs = .ok (cs, cs) := rfl

/-! ## Values without parts -/

theorem scalar_stringChars (s : String) (rest : List Char) :
    Reader.scalar (stringChars s ++ rest) = .ok (.str s, rest) := by
  have hquote : stringChars s ++ rest = '"' :: ((stringChars s).tail ++ rest) := rfl
  rw [hquote, Reader.scalar, bind_ok (peek_cons (by decide) _)]
  change (Reader.advance >>= fun _ => Reader.quoted >>= fun s => pure (Json.str s)) _ = _
  rw [bind_ok (advance_cons _ _), bind_ok (quoted_stringChars s rest)]
  rfl

theorem not_space_of_startsNumber {c : Char} (h : Reader.startsNumber c = true) :
    isSpace c = false := by
  cases hspace : isSpace c with
  | false => rfl
  | true =>
    simp only [isSpace, decide_eq_true_eq] at hspace
    rcases hspace with rfl | rfl | rfl | rfl <;> exact absurd h (by decide)

/-- The first character of a whole number. -/
theorem intChars_starts (i : Int) :
    ∃ c tail, intChars i = c :: tail ∧ Reader.startsNumber c = true := by
  cases i with
  | ofNat n =>
    cases h : Text.decimal n with
    | nil => exact absurd h (Text.decimal_ne_nil n)
    | cons c tail =>
      have hc : Text.isDigit c = true := Text.isDigit_of_mem_decimal (n := n) (by simp [h])
      exact ⟨c, tail, h, by simp [Reader.startsNumber, hc]⟩
  | negSucc n => exact ⟨'-', Text.decimal (n + 1), rfl, by decide⟩

theorem scalar_intChars {i : Int} {rest : List Char} (hlow : -9223372036854775808 ≤ i)
    (hhigh : i < UInt64.size) (hrest : Delimits rest) :
    Reader.scalar (intChars i ++ rest) = .ok (.int i, rest) := by
  have hnumber := number_intChars hlow hhigh hrest
  obtain ⟨c, tail, hi, hc⟩ := intChars_starts i
  rw [hi, List.cons_append] at hnumber ⊢
  rw [Reader.scalar, bind_ok (peek_cons (not_space_of_startsNumber hc) _)]
  split
  case h_5 => rw [if_pos hc, hnumber]
  all_goals exact absurd hc (by decide)

/-- A value without parts is read as itself. -/
theorem scalar_chars {v : Json} {rest : List Char} (h : Plain 0 v) (hrest : Delimits rest) :
    Reader.scalar (v.chars ++ rest) = .ok (v, rest) := by
  cases h with
  | null => rfl
  | bool b => cases b <;> rfl
  | int hlow hhigh =>
    rw [chars]
    exact scalar_intChars hlow hhigh hrest
  | str s =>
    rw [chars]
    exact scalar_stringChars s rest

/-- How a value may start: not with a blank, and not with the end of an array. -/
def Opens (cs : List Char) : Prop := ∃ c tail, cs = c :: tail ∧ isSpace c = false ∧ c ≠ ']'

theorem opens_chars {depth : Nat} {v : Json} (h : Plain depth v) : Opens v.chars := by
  cases h with
  | null => exact ⟨'n', _, by rw [chars], by decide, by decide⟩
  | bool b => cases b <;> exact ⟨_, _, by rw [chars], by decide, by decide⟩
  | @int _ i =>
    obtain ⟨c, tail, hi, hc⟩ := intChars_starts i
    refine ⟨c, tail, by rw [chars, hi], not_space_of_startsNumber hc, ?_⟩
    rintro rfl
    exact absurd hc (by decide)
  | str s => exact ⟨'"', _, by rw [chars]; rfl, by decide, by decide⟩
  | arr => exact ⟨'[', _, by rw [chars]; rfl, by decide, by decide⟩
  | obj => exact ⟨'\x7b', _, by rw [chars]; rfl, by decide, by decide⟩

/-! ## Parts with commas between them -/

variable {β σ : Type}

/-- The texts of some parts with commas between them. -/
def separated (text : β → List Char) : List β → List Char
  | [] => []
  | b :: bs => text b ++ bs.flatMap fun b => ',' :: text b

theorem separated_cons (text : β → List Char) (b : β) (bs : List β) :
    separated text (b :: bs) = text b ++ bs.flatMap fun b => ',' :: text b := rfl

theorem itemChars_eq (vs : List Json) : itemChars vs = separated chars vs := by
  induction vs with
  | nil => rfl
  | cons v rest ih =>
    cases rest with
    | nil => simp [itemChars, separated]
    | cons w rest => simpa [itemChars, separated] using ih

def memberText (m : String × Json) : List Char := stringChars m.1 ++ [':'] ++ m.2.chars

theorem memberChars_eq (ms : Members) : memberChars ms = separated memberText ms := by
  induction ms with
  | nil => rfl
  | cons m rest ih =>
    cases rest with
    | nil => simp [memberChars, separated, memberText]
    | cons n rest => simpa [memberChars, separated, memberText] using ih

/-- A part that a reader of parts goes on to, first and later, and takes in with one step. -/
structure Takes (more : Bool → Reader Bool) (step : σ → Reader σ) (text : β → List Char)
    (take : σ → β → σ) (b : β) : Prop where
  nonempty : text b ≠ []
  first (rest : List Char) : more true (text b ++ rest) = .ok (true, text b ++ rest)
  next (rest : List Char) : more false (',' :: (text b ++ rest)) = .ok (true, text b ++ rest)
  taken (s : σ) (rest : List Char) : Delimits rest → step s (text b ++ rest) = .ok (take s b, rest)

variable {more : Bool → Reader Bool} {step : σ → Reader σ} {text : β → List Char}
variable {take : σ → β → σ} {close : Char} {bs : List β}

theorem delimits_parts (hclose : close = ']' ∨ close = '\x7d') (bs : List β)
    (rest : List Char) : Delimits ((bs.flatMap fun b => ',' :: text b) ++ close :: rest) := by
  cases bs with
  | nil => exact delimits_cons (.inr hclose)
  | cons => exact delimits_cons (.inl rfl)

/-- Parts with commas before them, up to the closing bracket. The first list only bounds the
number of steps. -/
theorem each_rest (hbs : ∀ b ∈ bs, Takes more step text take b)
    (hclose : close = ']' ∨ close = '\x7d')
    (hdone : ∀ rest, more false (close :: rest) = .ok (false, close :: rest))
    (bound : List Char) (hbound : bs.length < bound.length) (s : σ) (rest : List Char) :
    Reader.each more step bound false s ((bs.flatMap fun b => ',' :: text b) ++ close :: rest) =
      .ok (bs.foldl take s, close :: rest) := by
  induction bs generalizing bound s with
  | nil =>
    obtain ⟨_, bound, rfl⟩ := List.exists_cons_of_length_pos hbound
    rw [Reader.each]
    exact bind_ok (hdone rest)
  | cons b bs ih =>
    obtain ⟨_, bound, rfl⟩ := List.exists_cons_of_length_pos (Nat.zero_lt_of_lt hbound)
    have hb := hbs b (by simp)
    rw [List.flatMap_cons, List.append_assoc, List.cons_append, Reader.each,
      bind_ok (hb.next _), if_pos rfl, bind_ok (hb.taken s _ (delimits_parts hclose bs rest))]
    exact ih (fun b' h => hbs b' (by simp [h])) bound (by simpa using hbound) (take s b)

theorem length_le_separated (h : ∀ b ∈ bs, text b ≠ []) :
    bs.length ≤ (separated text bs).length := by
  have hcommas (bs : List β) : bs.length ≤ (bs.flatMap fun b => ',' :: text b).length := by
    induction bs with
    | nil => simp
    | cons b bs ih => simp only [List.length_cons, List.flatMap_cons, List.length_append]; omega
  cases bs with
  | nil => simp
  | cons b bs =>
    have hb : 0 < (text b).length := List.length_pos_iff.2 (h b (by simp))
    have hbs := hcommas bs
    rw [separated_cons, List.length_append, List.length_cons]
    omega

/-- All parts are taken in, in order, up to the closing bracket. -/
theorem each_separated (hbs : ∀ b ∈ bs, Takes more step text take b)
    (hclose : close = ']' ∨ close = '\x7d')
    (hdone : ∀ first rest, more first (close :: rest) = .ok (false, close :: rest))
    (s : σ) (rest : List Char) :
    Reader.each more step (separated text bs ++ close :: rest) true s
        (separated text bs ++ close :: rest) = .ok (bs.foldl take s, close :: rest) := by
  have hlength := length_le_separated fun b hb => (hbs b hb).nonempty
  cases bs with
  | nil => exact bind_ok (hdone true rest)
  | cons b bs =>
    have hb := hbs b (by simp)
    have hbound : bs.length + 1 < (separated text (b :: bs) ++ close :: rest).length := by
      simp only [List.length_append, List.length_cons] at hlength ⊢
      omega
    obtain ⟨_, bound, htext⟩ := List.exists_cons_of_length_pos (Nat.zero_lt_of_lt hbound)
    rw [htext, List.length_cons] at hbound
    rw [htext, Reader.each, ← htext, separated_cons, List.append_assoc, bind_ok (hb.first _),
      if_pos rfl, bind_ok (hb.taken s _ (delimits_parts hclose bs rest))]
    exact each_rest (fun b' h => hbs b' (by simp [h])) hclose (hdone false) bound
      (by omega) (take s b) rest

/-! ## Arrays and objects -/

theorem nextItem_done (first : Bool) (rest : List Char) :
    Reader.nextItem first (']' :: rest) = .ok (false, ']' :: rest) := by
  rw [Reader.nextItem, bind_ok (peek_cons (by decide) _)]
  rfl

theorem nextName_done (first : Bool) (rest : List Char) :
    Reader.nextName first ('\x7d' :: rest) = .ok (false, '\x7d' :: rest) := by
  rw [Reader.nextName, bind_ok (peek_cons (by decide) _)]
  rfl

/-- The items of an array, each of which is read as itself. -/
theorem takes_item {r : Reader Json} {v : Json} (hopens : Opens v.chars)
    (hread : ∀ rest, Delimits rest → r (v.chars ++ rest) = .ok (v, rest)) :
    Takes Reader.nextItem (fun items => return (← r) :: items) chars (fun items v => v :: items)
      v := by
  obtain ⟨c, tail, hc, hspace, hend⟩ := hopens
  constructor
  case nonempty => simp [hc]
  case first =>
    intro rest
    rw [hc, List.cons_append, Reader.nextItem, bind_ok (peek_cons hspace _), if_neg hend,
      if_pos rfl]
    rfl
  case next =>
    intro rest
    rw [hc, List.cons_append, Reader.nextItem, bind_ok (peek_cons (by decide) _),
      if_neg (by decide), if_neg (by decide), if_pos rfl, bind_ok (advance_cons _ _),
      bind_ok (peek_cons hspace _), if_neg hend]
    rfl
  case taken =>
    intro items rest hrest
    exact bind_ok (hread rest hrest)

theorem array_chars {r : Reader Json} {vs : List Json} (hopens : ∀ v ∈ vs, Opens v.chars)
    (hread : ∀ v ∈ vs, ∀ rest, Delimits rest → r (v.chars ++ rest) = .ok (v, rest))
    (rest : List Char) :
    Reader.array [] (fun items => return (← r) :: items) ((Json.arr vs).chars ++ rest) =
      .ok (vs.reverse, rest) := by
  have htakes (v : Json) (hv : v ∈ vs) := takes_item (hopens v hv) (hread v hv)
  have heach := each_separated htakes (.inl rfl) nextItem_done [] rest
  have hitems : vs.foldl (fun items v => v :: items) [] = vs.reverse := by simp
  have htext : (Json.arr vs).chars ++ rest = '[' :: (separated chars vs ++ ']' :: rest) := by
    simp [chars, itemChars_eq]
  rw [htext, Reader.array, bind_ok (peek_cons (by decide) _), if_pos rfl,
    bind_ok (advance_cons _ _), bind_ok (get_ok _), bind_ok heach, bind_ok (advance_cons _ _),
    hitems]
  rfl

/-- The members of an object, each of whose values is read as itself. -/
theorem takes_member {r : Reader Json} {m : String × Json}
    (hread : ∀ rest, Delimits rest → r (m.2.chars ++ rest) = .ok (m.2, rest)) :
    Takes Reader.nextName
      (fun (ms : Members) => do
        Reader.advance
        let name ← Reader.quoted
        Reader.member (return ms.put name (← r)))
      memberText (fun ms m => ms.put m.1 m.2) m := by
  have hquote : memberText m = '"' :: ((stringChars m.1).tail ++ ':' :: m.2.chars) := by
    simp [memberText, stringChars]
  constructor
  case nonempty => simp [hquote]
  case first =>
    intro rest
    rw [hquote, List.cons_append, Reader.nextName, bind_ok (peek_cons (by decide) _),
      if_neg (by decide), if_pos rfl, if_pos rfl]
    rfl
  case next =>
    intro rest
    rw [hquote, List.cons_append, Reader.nextName, bind_ok (peek_cons (by decide) _),
      if_neg (by decide), if_neg (by decide), if_pos rfl, bind_ok (advance_cons _ _),
      bind_ok (peek_cons (by decide) _), if_pos rfl]
    rfl
  case taken =>
    intro ms rest hrest
    have hcolon : Reader.expect ':' (':' :: (m.2.chars ++ rest)) = .ok ((), m.2.chars ++ rest) := by
      rw [Reader.expect, bind_ok (peek_cons (by decide) _), if_pos rfl]
      rfl
    rw [hquote, List.cons_append, bind_ok (advance_cons _ _), List.append_assoc, List.cons_append,
      bind_ok (quoted_stringChars _ _), Reader.member, bind_ok hcolon, bind_ok (hread rest hrest)]
    rfl

/-- Members with different names stay as they are when they are put one after another. -/
theorem foldl_put {before ms : Members} (h : ((before ++ ms).map Prod.fst).Nodup) :
    ms.foldl (fun ms m => ms.put m.1 m.2) before = before ++ ms := by
  induction ms generalizing before with
  | nil => simp
  | cons m ms ih =>
    have hnew : before.put m.1 m.2 = before ++ [m] := by
      have hne (x : String × Json) (hx : x ∈ before) : x.1 ≠ m.1 := by
        intro heq
        simp only [List.map_append, List.map_cons, List.nodup_append] at h
        exact h.2.2 x.1 (List.mem_map_of_mem hx) m.1 (by simp) heq
      rw [Members.put, List.filter_eq_self.2 fun x hx => by simpa using hne x hx]
    rw [List.foldl_cons, hnew, ih (by simpa using h), List.append_assoc, List.singleton_append]

theorem object_chars {r : Reader Json} {ms : Members} (hnames : (ms.map Prod.fst).Nodup)
    (hread : ∀ m ∈ ms, ∀ rest, Delimits rest → r (m.2.chars ++ rest) = .ok (m.2, rest))
    (rest : List Char) :
    Reader.object [] (fun ms name => return Members.put ms name (← r))
      ((Json.obj ms).chars ++ rest) = .ok (ms, rest) := by
  have htakes (m : String × Json) (hm : m ∈ ms) := takes_member (hread m hm)
  have heach := each_separated htakes (.inr rfl) nextName_done [] rest
  have htext : (Json.obj ms).chars ++ rest =
      '\x7b' :: (separated memberText ms ++ '\x7d' :: rest) := by
    simp [chars, memberChars_eq]
  rw [foldl_put (by simpa using hnames), List.nil_append] at heach
  rw [htext, Reader.object, Reader.members, Reader.membersOf, bind_ok (peek_cons (by decide) _),
    if_pos rfl, bind_ok (advance_cons _ _), bind_ok (get_ok _), bind_ok heach,
    bind_ok (advance_cons _ _)]
  rfl

/-! ## Values of any shape -/

theorem value_of_scalar {depth : Nat} {v : Json} {rest : List Char} (h : Plain 0 v)
    (hrest : Delimits rest) : Reader.value depth (v.chars ++ rest) = .ok (v, rest) := by
  cases depth with
  | zero => exact scalar_chars h hrest
  | succ depth =>
    have hscalar := scalar_chars h hrest
    obtain ⟨c, tail, hc, hspace, -⟩ := opens_chars h
    rw [hc, List.cons_append] at hscalar ⊢
    rw [Reader.value, bind_ok (peek_cons hspace _)]
    -- A value without parts starts with no bracket: `scalar` would refuse it.
    split
    · cases hscalar
    · cases hscalar
    · exact hscalar

/-- A plain value is read off the front of a text. -/
theorem value_chars {depth : Nat} {v : Json} {rest : List Char} (h : Plain depth v)
    (hrest : Delimits rest) : Reader.value depth (v.chars ++ rest) = .ok (v, rest) := by
  induction h generalizing rest with
  | null => exact value_of_scalar .null hrest
  | bool b => exact value_of_scalar (.bool b) hrest
  | int hlow hhigh => exact value_of_scalar (.int hlow hhigh) hrest
  | str s => exact value_of_scalar (.str s) hrest
  | @arr depth items hitems ih =>
    have hopens (v : Json) (hv : v ∈ items) := opens_chars (hitems v hv)
    have harray := array_chars hopens (fun v hv rest hrest => ih v hv hrest) rest
    have htext : (Json.arr items).chars ++ rest = '[' :: (itemChars items ++ ']' :: rest) := by
      simp [chars]
    rw [htext] at harray ⊢
    rw [Reader.value, bind_ok (peek_cons (by decide) _)]
    refine (bind_ok harray).trans ?_
    rw [List.reverse_reverse]
    rfl
  | @obj depth ms hnames _ ih =>
    have hobject := object_chars hnames (fun m hm rest hrest => ih m hm hrest) rest
    have htext : (Json.obj ms).chars ++ rest = '\x7b' :: (memberChars ms ++ '\x7d' :: rest) := by
      simp [chars]
    rw [htext] at hobject ⊢
    rw [Reader.value, bind_ok (peek_cons (by decide) _)]
    exact bind_ok hobject

theorem read_compact {v : Json} (h : Plain Reader.maxDepth v) : Json.read v.compact = .ok v := by
  have hvalue := value_chars h delimits_nil
  rw [List.append_nil] at hvalue
  simp [Json.read, Reader.ofText, compact, hvalue]

/-! ## No controls in a text -/

theorem printable_of_decide {cs : List Char} (h : cs.all (32 ≤ ·.toNat) = true) : Printable cs := by
  simpa [Printable] using h

theorem printable_intChars (i : Int) : Printable (intChars i) := by
  have hdecimal (n : Nat) : Printable (Text.decimal n) := by
    intro c hc
    have hdigit : c.isDigit = true := by
      rw [← Text.isDigit_eq]
      exact Text.isDigit_of_mem_decimal hc
    simp only [Char.isDigit, Bool.and_eq_true, decide_eq_true_eq] at hdigit
    have h48 : 48 ≤ c.toNat := hdigit.1
    omega
  cases i with
  | ofNat n => exact hdecimal n
  | negSucc n =>
    have hsign : Printable ['-'] := printable_of_decide rfl
    exact hsign.append (hdecimal (n + 1))

theorem printable_separated (h : ∀ b ∈ bs, Printable (text b)) : Printable (separated text bs) := by
  cases bs with
  | nil => exact printable_of_decide rfl
  | cons b bs =>
    refine .append (h b (by simp)) fun c hc => ?_
    obtain ⟨b', hb', hc⟩ := List.mem_flatMap.1 hc
    rcases List.mem_cons.1 hc with rfl | hc
    · decide
    · exact h b' (by simp [hb']) c hc

theorem printable_chars {depth : Nat} {v : Json} (h : Plain depth v) : Printable v.chars := by
  induction h with
  | null => exact printable_of_decide rfl
  | bool b => cases b <;> exact printable_of_decide rfl
  | @int _ i => rw [chars]; exact printable_intChars i
  | str s => rw [chars]; exact printable_stringChars s
  | @arr _ items _ ih =>
    rw [chars, itemChars_eq]
    have hitems : Printable (separated chars items) := printable_separated ih
    exact ((printable_of_decide rfl).append hitems).append (printable_of_decide rfl)
  | @obj _ ms _ _ ih =>
    rw [chars, memberChars_eq]
    have hmember (m : String × Json) (hm : m ∈ ms) : Printable (memberText m) :=
      ((printable_stringChars m.1).append (printable_of_decide rfl)).append (ih m hm)
    exact ((printable_of_decide rfl).append (printable_separated hmember)).append
      (printable_of_decide rfl)

theorem printable_compact {depth : Nat} {v : Json} (h : Plain depth v) :
    Printable v.compact.toList := by
  rw [compact, String.toList_ofList]
  exact printable_chars h

end SandboxWatch.Json
