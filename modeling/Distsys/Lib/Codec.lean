import Mathlib.Data.List.Forall2

/-!
# Encoders and decoders that may raise

`Retracts encode decode` says that decoding undoes every encoding that succeeds, and
`Raises property result` that a result is an exception with a property only. Both pass
from the elements to lists.
-/

namespace Codec

variable {ε α β γ : Type} {first result : Except ε α} {next encode : α → Except ε β}
  {values : List α} {codes : List β} {decode : β → Except ε α} {error : ε}

theorem ok_bind (value : α) (next : α → Except ε β) : (Except.ok value >>= next) = next value := rfl

theorem bind_eq_ok {result : β} :
    first >>= next = .ok result ↔ ∃ value, first = .ok value ∧ next value = .ok result := by
  cases first with
  | error error => exact ⟨nofun, nofun⟩
  | ok value =>
      constructor
      · exact fun same => ⟨value, rfl, same⟩
      · rintro ⟨_, ⟨⟩, same⟩
        exact same

theorem isOk_iff : result.isOk = true ↔ ∃ value, result = .ok value := by
  cases result with
  | error error => exact ⟨nofun, nofun⟩
  | ok value => exact ⟨fun _ => ⟨value, rfl⟩, fun _ => rfl⟩

/-- A sequence of two encoders succeeds when both do. -/
theorem isOk_bind {possible : Prop}
    (tail : ∀ value, first = .ok value → ((next value).isOk = true ↔ possible)) :
    (first >>= next).isOk = true ↔ first.isOk = true ∧ possible := by
  cases first with
  | error error => exact ⟨nofun, fun both => nomatch both.1⟩
  | ok value =>
      refine (tail value rfl).trans ?_
      exact ⟨fun holds => ⟨rfl, holds⟩, And.right⟩

theorem isOk_bind_pure {finish : α → β} :
    (first >>= fun value => pure (finish value)).isOk = true ↔ first.isOk = true := by
  cases first <;> exact Iff.rfl

theorem mapM_eq_ok_iff :
    values.mapM encode = .ok codes ↔
      List.Forall₂ (fun value code => encode value = .ok code) values codes := by
  induction values generalizing codes with
  | nil =>
      rw [List.mapM_nil, List.forall₂_nil_left_iff]
      exact ⟨fun same => by cases same; rfl, fun same => by rw [same]; rfl⟩
  | cons value rest ih =>
      simp only [List.mapM_cons, bind_eq_ok, ih, List.forall₂_cons_left_iff]
      constructor
      · rintro ⟨code, encoded, others, tail, ⟨⟩⟩
        exact ⟨code, others, encoded, tail, rfl⟩
      · rintro ⟨code, others, encoded, tail, rfl⟩
        exact ⟨code, encoded, others, tail, rfl⟩

/-- Whatever every successful decoding has, all decoded elements have. -/
theorem forall_of_mapM {property : α → Prop} (decoded : codes.mapM decode = .ok values)
    (each : ∀ code value, decode code = .ok value → property value) :
    ∀ value ∈ values, property value := by
  have pairs := mapM_eq_ok_iff.mp decoded
  induction pairs with
  | nil => exact fun value listed => absurd listed List.not_mem_nil
  | cons first _ ih =>
      refine List.forall_mem_cons.mpr ⟨each _ _ first, ih (mapM_eq_ok_iff.mpr ‹_›)⟩

/-- Every code of a list is the code of one of its elements. -/
theorem exists_of_mem_mapM (encoded : values.mapM encode = .ok codes) {code : β}
    (among : code ∈ codes) :
    ∃ value ∈ values, encode value = .ok code := by
  have pairs := mapM_eq_ok_iff.mp encoded
  clear encoded
  induction pairs with
  | nil => cases among
  | cons same _ ih =>
      rcases List.mem_cons.mp among with rfl | later
      · exact ⟨_, .head _, same⟩
      · obtain ⟨value, listed, there⟩ := ih later
        exact ⟨value, .tail _ listed, there⟩

theorem isOk_mapM :
    (values.mapM encode).isOk = true ↔ ∀ value ∈ values, (encode value).isOk = true := by
  induction values with
  | nil => exact ⟨fun _ _ member => absurd member List.not_mem_nil, fun _ => rfl⟩
  | cons value rest ih =>
      rw [List.mapM_cons, List.forall_mem_cons, ← ih]
      exact isOk_bind fun code _ => isOk_bind_pure

/-- The result is a value, or an exception with the property. -/
def Raises (property : ε → Prop) (result : Except ε α) : Prop :=
  ∀ error, result = .error error → property error

section Raises

variable {property : ε → Prop}

theorem raises_ok (value : α) : Raises property (.ok value) := nofun

theorem raises_error (holds : property error) :
    Raises property (.error error : Except ε α) := by
  rintro _ ⟨⟩
  exact holds

theorem raises_error_iff :
    Raises property (.error error : Except ε α) ↔ property error :=
  ⟨fun raises => raises error rfl, raises_error⟩

theorem Raises.bind (start : Raises property first) (rest : ∀ value, Raises property (next value)) :
    Raises property (first >>= next) := by
  cases first with
  | ok value => exact rest value
  | error error => exact raises_error (start error rfl)

theorem Raises.mapM (each : ∀ value, Raises property (encode value)) (values : List α) :
    Raises property (values.mapM encode) := by
  induction values with
  | nil => exact raises_ok []
  | cons value rest ih =>
      rw [List.mapM_cons]
      exact (each value).bind fun code => ih.bind fun codes => raises_ok (code :: codes)

end Raises

/-- Encode the value of a field that may be absent. -/
def whenPresent (encode : α → Except ε β) : Option α → Except ε (Option β)
  | none => .ok none
  | some value => do
      let code ← encode value
      return some code

/-- Whatever is decoded from an encoded field is the field. -/
theorem eq_of_whenPresent
    (agree : ∀ value code received, encode value = .ok code → decode code = .ok received →
      received = value) {field : Option α} {code : Option β} {received : Option α}
    (encoded : whenPresent encode field = .ok code)
    (decoded : whenPresent decode code = .ok received) : received = field := by
  cases field with
  | none =>
      cases encoded
      cases decoded
      rfl
  | some value =>
      obtain ⟨written, encodes, made⟩ := bind_eq_ok.mp encoded
      cases made
      obtain ⟨read, decodes, made⟩ := bind_eq_ok.mp decoded
      cases made
      exact congrArg some (agree value written read encodes decodes)

/-- The result reports the first fault of its input: a value if there is none, and otherwise an
exception of the fault's kind. -/
def Reports {Fault : Type} (raised : Fault → ε → Prop) : List Fault → Except ε α → Prop
  | [], result => ∃ value, result = .ok value
  | fault :: _, result => ∃ error, result = .error error ∧ raised fault error

section Reports

variable {Fault : Type} {raised : Fault → ε → Prop} {faults : List Fault}

theorem reports_ok (value : α) : Reports raised [] (.ok value : Except ε α) := ⟨value, rfl⟩

theorem reports_error {fault : Fault} (kind : raised fault error) (later : List Fault) :
    Reports raised (fault :: later) (.error error : Except ε α) :=
  ⟨error, rfl, kind⟩

/-- Faults are found in the order of reading. -/
theorem Reports.bind {later : List Fault} (start : Reports raised faults first)
    (rest : ∀ value, Reports raised later (next value)) :
    Reports raised (faults ++ later) (first >>= next) := by
  cases faults with
  | nil =>
      obtain ⟨value, rfl⟩ := start
      exact rest value
  | cons fault others =>
      obtain ⟨error, rfl, kind⟩ := start
      exact reports_error kind _

theorem Reports.bind_pure (start : Reports raised faults first) (finish : α → β) :
    Reports raised faults (first >>= fun value => pure (finish value)) := by
  have whole := start.bind fun value => reports_ok (finish value)
  rwa [List.append_nil] at whole

theorem Reports.mapM {faults : α → List Fault} {decode : α → Except ε β}
    (each : ∀ code, Reports raised (faults code) (decode code)) (codes : List α) :
    Reports raised (codes.flatMap faults) (codes.mapM decode) := by
  induction codes with
  | nil => exact reports_ok []
  | cons code rest ih =>
      rw [List.mapM_cons, List.flatMap_cons]
      exact (each code).bind fun value => ih.bind_pure (value :: ·)

theorem Reports.whenPresent {faults : α → List Fault} {decode : α → Except ε β}
    (each : ∀ code, Reports raised (faults code) (decode code)) (field : Option α) :
    Reports raised (field.elim [] faults) (whenPresent decode field) := by
  cases field with
  | none => exact reports_ok none
  | some code => exact (each code).bind_pure some

end Reports

/-- Decoding gives back every value that can be encoded. -/
def Retracts (encode : α → Except ε β) (decode : β → Except ε α) : Prop :=
  ∀ value code, encode value = .ok code → decode code = .ok value

theorem Retracts.mapM (retracts : Retracts encode decode) :
    Retracts (List.mapM encode) (List.mapM decode) := by
  intro values codes encoded
  have pairs := mapM_eq_ok_iff.mp encoded
  exact mapM_eq_ok_iff.mpr (pairs.flip.imp fun code value same => retracts value code same)

theorem mapM_map {encode : α → β} (retracts : ∀ value ∈ values, decode (encode value) = .ok value) :
    (values.map encode).mapM decode = .ok values := by
  rw [mapM_eq_ok_iff, List.forall₂_map_left_iff]
  exact List.forall₂_same.mpr retracts

/-- When every element is accepted, a decoder that checks the elements gives back
the list; otherwise it raises. -/
theorem mapM_eq_ok_or {accepted : α → Prop}
    (yes : ∀ value code, encode value = .ok code → accepted value → decode code = .ok value)
    (no : ∀ value code, encode value = .ok code → ¬ accepted value → (decode code).isOk = false)
    (encoded : values.mapM encode = .ok codes) :
    ((∀ value ∈ values, accepted value) → codes.mapM decode = .ok values) ∧
      (¬ (∀ value ∈ values, accepted value) → (codes.mapM decode).isOk = false) := by
  have pairs := mapM_eq_ok_iff.mp encoded
  constructor
  · intro all
    refine mapM_eq_ok_iff.mpr ?_
    clear encoded
    induction pairs with
    | nil => exact .nil
    | cons same _ ih =>
        obtain ⟨head, tail⟩ := List.forall_mem_cons.mp all
        exact .cons (yes _ _ same head) (ih tail)
  · intro some
    rw [← Bool.not_eq_true, isOk_mapM]
    intro all
    refine some ?_
    clear encoded some
    induction pairs with
    | nil => exact fun _ member => absurd member List.not_mem_nil
    | cons same _ ih =>
        obtain ⟨head, tail⟩ := List.forall_mem_cons.mp all
        refine List.forall_mem_cons.mpr ⟨?_, ih tail⟩
        by_contra rejected
        rw [no _ _ same rejected] at head
        cases head

end Codec
