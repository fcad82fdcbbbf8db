import SandboxWatch.Config
import SandboxWatch.Proofs.Json.Typed
import SandboxWatch.Status.Table

/-!
# SandboxWatch.Proofs.Status.WireForm

Statuses, selectors and settings on the wire.

* `ServiceStatus.roundTrips`, `SandboxStatus.roundTrips`, `Selector.roundTrips`,
  `Config.roundTrips` — what is written is read as what it was.
* `SandboxStatus.splitOn_printed` — what a watch prints is one line a status.
* `wireForm_faithful` — all of it, with the parts that are left out.
-/

namespace SandboxWatch

open Json

/-! ## Statuses -/

theorem ServicePhase.ofJson?_text (p : ServicePhase) : ofJson? (.str p.text) = some p := by
  cases p <;> decide

theorem SandboxPhase.ofJson?_text (p : SandboxPhase) : ofJson? (.str p.text) = some p := by
  cases p <;> decide

namespace ServiceStatus

theorem ofJson?_toJson (s : ServiceStatus) : ofJson? s.toJson = some s := by
  obtain ⟨phase, message, hasStarted⟩ := s
  cases message with
  | none => simp [toJson, ofJson?, Members.get?, ofParts?, ServicePhase.ofJson?_text, optional?, bool?]
  | some m =>
    simp [toJson, ofJson?, Members.get?, ofParts?, ServicePhase.ofJson?_text, optional?, string?,
      bool?]

theorem plain_toJson (depth : Nat) (s : ServiceStatus) : Plain (depth + 1) s.toJson := by
  obtain ⟨phase, message, hasStarted⟩ := s
  cases message with
  | none =>
    refine .obj (by simp) ?_
    simp [Plain.str, Plain.bool]
  | some m =>
    refine .obj (by simp) ?_
    simp [Plain.str, Plain.bool]

theorem roundTrips : RoundTrips toJson ofJson? :=
  .of_plain (plain_toJson 126) ofJson?_toJson

/-- A message is written exactly when there is one. -/
theorem field?_message_eq_none_iff (s : ServiceStatus) :
    s.toJson.field? "message" = none ↔ s.message = none := by
  cases h : s.message <;> simp [toJson, h, field?, Members.get?]

end ServiceStatus

namespace SandboxStatus

theorem ofJson?_toJson (s : SandboxStatus) : ofJson? s.toJson = some s := by
  obtain ⟨phase, services⟩ := s
  by_cases h : services = ∅
  · simp [toJson, ofJson?, h, Members.get?, ofParts?, SandboxPhase.ofJson?_text]
  · simp [toJson, ofJson?, h, Members.get?, ofParts?, SandboxPhase.ofJson?_text,
      mapOf?_ofMap ServiceStatus.ofJson?_toJson]

theorem plain_toJson (depth : Nat) (s : SandboxStatus) : Plain (depth + 3) s.toJson := by
  obtain ⟨phase, services⟩ := s
  have hservices : Plain (depth + 2) (ofMap ServiceStatus.toJson services) :=
    plain_ofMap (ServiceStatus.plain_toJson depth) services
  by_cases h : services = ∅
  · refine .obj (by simp [h]) ?_
    simp [h, Plain.str]
  · refine .obj (by simp [h]) ?_
    simp [h, Plain.str, hservices]

theorem roundTrips : RoundTrips toJson ofJson? :=
  .of_plain (plain_toJson 124) ofJson?_toJson

/-- Services are written exactly when there are some. -/
theorem field?_services_eq_none_iff (s : SandboxStatus) :
    s.toJson.field? "services" = none ↔ s.services = ∅ := by
  by_cases h : s.services = ∅ <;> simp [toJson, h, field?, Members.get?]

/-! ## Lines -/

theorem printable_line (s : SandboxStatus) : Printable s.line.toList :=
  printable_compact (plain_toJson 0 s)

theorem not_mem_line {c : Char} (hc : c.toNat < 32) (s : SandboxStatus) : c ∉ s.line.toList :=
  fun h => absurd (printable_line s c h) (by omega)

/-- What is printed for statuses one after another falls into one line for each of them. -/
theorem splitOn_printed (ns : String) (ss : List SandboxStatus) :
    (String.join (ss.map (printed .json ns))).toList.splitOn '\n' =
      ss.map (·.line.toList) ++ [[]] := by
  induction ss with
  | nil => rfl
  | cons s ss ih =>
    have hline : '\n' ∉ s.line.toList := not_mem_line (by decide) s
    have hjoin : (String.join ((s :: ss).map (printed .json ns))).toList =
        s.line.toList ++ '\n' :: (String.join (ss.map (printed .json ns))).toList := by
      simp [String.join_cons, printed]
    rw [hjoin, List.splitOn_append_cons_self_of_not_mem hline, ih]
    rfl

end SandboxStatus

/-! ## Selectors and settings -/

namespace Selector

theorem ofJson?_toJson (s : Selector) : ofJson? s.toJson = some s := by
  have hvalue (value : String) : string? (.str value) = some value := rfl
  rw [ofJson?, toJson, mapOf?_ofMap hvalue]
  rfl

theorem plain_toJson (depth : Nat) (s : Selector) : Plain (depth + 1) s.toJson :=
  plain_ofMap .str s.wanted

theorem roundTrips : RoundTrips toJson ofJson? :=
  .of_plain (plain_toJson 126) ofJson?_toJson

end Selector

theorem Duration.ofParts?_parts (d : Duration) : ofParts? d.seconds.toNat d.nanos = some d := by
  obtain ⟨seconds, nanos, hnanos⟩ := d
  have hwhole : nanos / 1000000000 = 0 := Nat.div_eq_of_lt hnanos
  simp [ofParts?, hwhole, seconds.toNat_lt_size, Nat.mod_eq_of_lt hnanos]

namespace Config

theorem below?_int {bound n : Nat} (h : n < bound) : below? bound (.int n) = some n := by
  have hlast : (n : Int) ≤ (bound : Int) - 1 := by omega
  simp [below?, within?, hlast]

theorem timeoutOfJson?_timeoutToJson (d : Duration) : timeoutOfJson? (timeoutToJson d) = some d := by
  have hseconds : below? UInt64.size (.int d.seconds.toNat) = some d.seconds.toNat :=
    below?_int d.seconds.toNat_lt_size
  have hnanos : below? UInt32.size (.int d.nanos) = some d.nanos :=
    below?_int (Nat.lt_trans d.nanos_lt (by decide))
  simp [timeoutToJson, timeoutOfJson?, Members.get?, timeoutOfParts?, hseconds, hnanos,
    Duration.ofParts?_parts]

theorem plain_timeoutToJson (depth : Nat) (d : Duration) : Plain (depth + 1) (timeoutToJson d) := by
  have hseconds : (d.seconds.toNat : Int) < UInt64.size := Int.ofNat_lt.2 d.seconds.toNat_lt_size
  have hnanos : (d.nanos : Int) < UInt64.size :=
    Int.ofNat_lt.2 (Nat.lt_trans d.nanos_lt (by decide))
  refine .obj (by simp) ?_
  intro m hm
  simp only [List.mem_cons, List.not_mem_nil, or_false] at hm
  rcases hm with rfl | rfl
  · exact .int (by omega) hseconds
  · exact .int (by omega) hnanos

theorem ofJson?_toJson (c : Config) : ofJson? c.toJson = some c := by
  obtain ⟨memberLabel, serviceLabel, timeout⟩ := c
  cases timeout with
  | none => simp [toJson, ofJson?, Members.get?, ofParts?, string?, optional?]
  | some d =>
    have htimeout : optional? timeoutOfJson? (some (timeoutToJson d)) = some (some d) := by
      simpa [optional?, timeoutToJson] using timeoutOfJson?_timeoutToJson d
    simp [toJson, ofJson?, Members.get?, ofParts?, string?, htimeout]

theorem plain_toJson (depth : Nat) (c : Config) : Plain (depth + 2) c.toJson := by
  obtain ⟨memberLabel, serviceLabel, timeout⟩ := c
  cases timeout with
  | none =>
    refine .obj (by simp) ?_
    simp [Plain.str, Plain.null]
  | some d =>
    refine .obj (by simp) ?_
    simp [Plain.str, plain_timeoutToJson depth d]

theorem roundTrips : RoundTrips toJson ofJson? :=
  .of_plain (plain_toJson 125) ofJson?_toJson

end Config

/-- What is written is read as the value that it was, from the JSON value and from its text. A
message that is missing is left out, and so are services when there are none. What is printed for a
status is one line that ends with its line feed, and statuses printed one after another fall into
these lines again. -/
theorem wireForm_faithful :
    RoundTrips ServiceStatus.toJson ServiceStatus.ofJson? ∧
    RoundTrips SandboxStatus.toJson SandboxStatus.ofJson? ∧
    RoundTrips Selector.toJson Selector.ofJson? ∧
    RoundTrips Config.toJson Config.ofJson? ∧
    (∀ s : ServiceStatus, s.toJson.field? "message" = none ↔ s.message = none) ∧
    (∀ s : SandboxStatus, s.toJson.field? "services" = none ↔ s.services = ∅) ∧
    (∀ (ns : String) (s : SandboxStatus), s.printed .json ns = s.line ++ "\n" ∧
      '\n' ∉ s.line.toList ∧ '\r' ∉ s.line.toList) ∧
    (∀ (ns : String) (ss : List SandboxStatus),
      (String.join (ss.map (SandboxStatus.printed .json ns))).toList.splitOn '\n' =
        ss.map (·.line.toList) ++ [[]]) := by
  refine ⟨ServiceStatus.roundTrips, SandboxStatus.roundTrips, Selector.roundTrips,
    Config.roundTrips, ServiceStatus.field?_message_eq_none_iff,
    SandboxStatus.field?_services_eq_none_iff, ?_, SandboxStatus.splitOn_printed⟩
  intro ns s
  exact ⟨rfl, s.not_mem_line (by decide), s.not_mem_line (by decide)⟩

example :
    (ServiceStatus.ofPhase .pending |>.withMessage "a\nb\\").toJson.compact =
      "\x7b\"phase\":\"PENDING\",\"message\":\"a\\nb\\\\\",\"has_started\":false\x7d" := by
  decide +kernel

end SandboxWatch
