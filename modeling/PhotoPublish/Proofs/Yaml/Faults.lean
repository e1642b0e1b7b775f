import Mathlib.Data.List.Basic
import PhotoPublish.Yaml.Document

/-!
# Failures of reading

Reading a document fails with a fault of the notation or with a failure of a few kinds (`Failure.IsPlain`):
bytes that are no text, scalars without a value, escapes without a character, texts without an end. No other
failure comes up on the way (`FailsIn`), neither in a result nor in a step of building (`Build.Plain`).

* `Tag.fails_readScalar`: scalars.
* `Build.plain_all`: what collections hold, whatever has been built.
* `isPlain_of_readBytes`: documents.
-/

set_option autoImplicit false

namespace PhotoPublish

/-- The kinds of failures with which reading a document ends. -/
def Family.isPlain : Family → Bool
  | .invalidValue | .overflow | .missingKey | .missingIndex | .noOperation | .wrongType
  | .undecodable | .exhausted => true
  | _ => false

/-- A failure of one of these kinds. -/
def Failure.IsPlain (cause : Failure) : Prop :=
  cause.family.isPlain = true

namespace Yaml

/-- A fault of the notation, or a failure of one of these kinds. -/
def Fault.IsPlain : Fault → Prop
  | malformed => True
  | failure cause => cause.IsPlain

/-! ## Results that may fail -/

/-- What a result may fail with. -/
def FailsIn {ε α : Type} (kinds : ε → Prop) (result : Except ε α) : Prop :=
  ∀ fault, result = .error fault → kinds fault

namespace FailsIn

variable {ε δ α β : Type} {kinds : ε → Prop} {result : Except ε α} {next : α → Except ε β}

theorem ok (a : α) : FailsIn kinds (.ok a) :=
  nofun

theorem error {fault : ε} (h : kinds fault) : FailsIn kinds (.error fault : Except ε α) := by
  rintro _ ⟨⟩
  exact h

theorem bind (h : FailsIn kinds result) (hnext : ∀ a, FailsIn kinds (next a)) :
    FailsIn kinds (result >>= next) := by
  cases result with
  | ok a => exact hnext a
  | error fault => exact error (h fault rfl)

theorem map (f : α → β) (h : FailsIn kinds result) : FailsIn kinds (f <$> result) := by
  cases result with
  | ok a => exact ok (f a)
  | error fault => exact error (h fault rfl)

theorem mapError {others : δ → Prop} {f : ε → δ} (h : FailsIn kinds result)
    (hf : ∀ fault, kinds fault → others (f fault)) : FailsIn others (result.mapError f) := by
  cases result with
  | ok a => exact ok a
  | error fault => exact error (hf fault (h fault rfl))

theorem foldlM {step : β → α → Except ε β} (h : ∀ b a, FailsIn kinds (step b a)) (list : List α)
    (b : β) : FailsIn kinds (list.foldlM step b) := by
  induction list generalizing b with
  | nil => exact ok b
  | cons a rest ih =>
    rw [List.foldlM_cons]
    exact (h b a).bind ih

theorem mapM (h : ∀ a, FailsIn kinds (next a)) (list : List α) : FailsIn kinds (list.mapM next) := by
  induction list with
  | nil => exact ok []
  | cons a rest ih =>
    rw [List.mapM_cons]
    exact (h a).bind fun b => ih.bind fun bs => ok (b :: bs)

end FailsIn

/-! ## Scalars without a value -/

namespace Scalar

open FailsIn

theorem fails_numeral (base : Nat) (text : Text) : FailsIn Failure.IsPlain (Numeral.read base text) := by
  simp only [Numeral.read]
  split
  · exact error rfl
  · split
    · exact error rfl
    · split
      · exact error rfl
      · exact ok _

theorem fails_decimal (text : Text) : FailsIn Failure.IsPlain (Binary64.read text) := by
  simp only [Binary64.read]
  split
  · exact ok _
  · exact error rfl

theorem fails_sign (text : Text) : FailsIn Failure.IsPlain (takeSign text) := by
  cases text with
  | nil => exact error rfl
  | cons c rest => exact ok _

theorem fails_whole (text : Text) : FailsIn Failure.IsPlain (readWhole text) := by
  refine (fails_sign _).bind fun ⟨negative, body⟩ => FailsIn.map _ ?_
  split
  · exact ok 0
  · exact fails_numeral _ _
  · exact fails_numeral _ _
  · exact error rfl
  · exact fails_numeral _ _
  · split
    · exact (FailsIn.mapM (fails_numeral 10) _).bind fun digits => ok _
    · exact fails_numeral _ _

theorem fails_digit (state : Int × Binary64) (digit : Binary64) :
    FailsIn Failure.IsPlain (addDigit state digit) := by
  obtain ⟨weight, sum⟩ := state
  unfold addDigit
  dsimp only
  cases Binary64.ofInt? weight with
  | some factor => exact ok _
  | none => exact error rfl

theorem fails_real (text : Text) : FailsIn Failure.IsPlain (readReal text) := by
  refine (fails_sign _).bind fun ⟨negative, body⟩ => ?_
  dsimp only
  split
  · exact ok _
  · split
    · exact ok _
    · split
      · exact (FailsIn.mapM fails_decimal _).bind fun digits =>
          ((FailsIn.foldlM fails_digit _ _).map _).bind fun x => ok _
      · exact (fails_decimal _).bind fun x => ok _

theorem fails_bool (text : Text) : FailsIn Failure.IsPlain (readBool text) := by
  simp only [readBool]
  split
  · exact ok _
  · exact error rfl

theorem fails_calendar {α : Type} (result : Except CalendarFault α) :
    FailsIn Failure.IsPlain (result.mapError Failure.calendar) := by
  cases result with
  | ok a => exact ok a
  | error fault => exact error rfl

theorem fails_timestamp (text : Text) : FailsIn Failure.IsPlain (readTimestamp text) := by
  refine FailsIn.bind ?_ fun compiled => ?_
  · cases @Pattern.read .none timestampParts.toList with
    | ok compiled => exact ok compiled
    | error fault => exact error rfl
  · dsimp only
    cases compiled.search text with
    | none => exact error rfl
    | some found =>
      dsimp only
      split
      · exact fails_calendar _
      · exact fails_calendar _

end Scalar

/-- **A scalar without a value** fails with one of these kinds. -/
theorem Tag.fails_readScalar {tag : Tag} {text : Text} {result : Except Fault Value}
    (h : tag.readScalar text = some result) : FailsIn Fault.IsPlain result := by
  cases tag <;> simp only [readScalar, Option.some.injEq, reduceCtorEq] at h
  case bool => exact h ▸ ((Scalar.fails_bool text).map Value.bool).mapError fun _ hfault => hfault
  case whole => exact h ▸ ((Scalar.fails_whole text).map Value.whole).mapError fun _ hfault => hfault
  case real => exact h ▸ ((Scalar.fails_real text).map Value.real).mapError fun _ hfault => hfault
  case timestamp => exact h ▸ (Scalar.fails_timestamp text).mapError fun _ hfault => hfault
  case binary =>
    split at h
    · exact Option.some.inj h ▸ FailsIn.ok _
    · exact Option.some.inj h ▸ FailsIn.error trivial
  case null | text => exact h ▸ FailsIn.ok _
  case merge | default | other => exact h ▸ FailsIn.error trivial

namespace Contents

open FailsIn

theorem fails_scalarText (contents : Contents) (fuel : Nat) (node : Node) :
    FailsIn Fault.IsPlain (contents.scalarText fuel node) := by
  induction fuel generalizing node with
  | zero =>
    cases node with
    | scalar => exact ok _
    | collection => exact error rfl
  | succ fuel ih =>
    cases node with
    | scalar => exact ok _
    | collection number =>
      rw [scalarText]
      split
      · split
        · exact ih _
        · exact error trivial
      · exact error trivial

theorem fails_scalarValue (contents : Contents) (node : Node) :
    FailsIn Fault.IsPlain (contents.scalarValue node) := by
  refine (fails_scalarText contents _ node).bind fun text => ?_
  split
  · exact error trivial
  · exact error rfl
  · rename_i hresult _
    exact Tag.fails_readScalar hresult

theorem fails_keyValue (contents : Contents) (node : Node) :
    FailsIn Fault.IsPlain (contents.keyValue node) := by
  unfold keyValue
  split
  all_goals first | exact error trivial | exact fails_scalarValue contents node

end Contents

/-! ## Building -/

namespace Build

variable {α β : Type}

/-- A step of building fails in this way only, whatever has been built. -/
def Plain (step : Build α) : Prop :=
  ∀ s, FailsIn Fault.IsPlain (step.run s)

namespace Plain

theorem pure (a : α) : Plain (pure a) :=
  fun s => FailsIn.ok (a, s)

theorem bind {step : Build α} {next : α → Build β} (h : Plain step) (hnext : ∀ a, Plain (next a)) :
    Plain (step >>= next) :=
  fun s => (h s).bind fun built => hnext built.1 built.2

theorem get : Plain get :=
  fun s => FailsIn.ok (s, s)

theorem set (s : Builder) : Plain (set s) :=
  fun _ => FailsIn.ok ((), s)

theorem modify (f : Builder → Builder) : Plain (modify f) :=
  fun s => FailsIn.ok ((), f s)

theorem throw : Plain (throw .malformed : Build α) :=
  fun _ => FailsIn.error trivial

theorem lift {result : Except Fault α} (h : FailsIn Fault.IsPlain result) :
    Plain (liftM result : Build α) :=
  fun s => h.bind fun a => FailsIn.ok (a, s)

theorem mapM {step : α → Build β} (h : ∀ a, Plain (step a)) (list : List α) :
    Plain (list.mapM step) := by
  induction list with
  | nil => exact Plain.pure []
  | cons a rest ih =>
    rw [List.mapM_cons]
    exact (h a).bind fun b => ih.bind fun bs => Plain.pure (b :: bs)

end Plain

theorem plain_start (node : Node) : Plain (start node) := by
  refine Plain.get.bind fun s => ?_
  cases node with
  | scalar => exact (Plain.set _).bind fun _ => .pure _
  | collection number =>
    dsimp only
    split
    · exact (Plain.set _).bind fun _ => .pure _
    · exact .pure _

theorem plain_item (node : Node) : Plain (item node) := by
  refine Plain.get.bind fun s => ?_
  dsimp only
  split
  all_goals first
    | exact plain_start node
    | exact .throw
    | exact (Plain.lift (s.contents.fails_scalarValue node)).bind fun _ => .pure _

theorem plain_entry (node : Node × Node) : Plain (entry node) :=
  Plain.get.bind fun s => (Plain.lift (s.contents.fails_keyValue node.1)).bind fun _ =>
    (plain_item node.2).bind fun _ => .pure _

theorem plain_entries (number : Nat) : Plain (entries number) := by
  refine Plain.get.bind fun s => ?_
  dsimp only
  split
  · exact .throw
  · exact (Plain.set _).bind fun _ => (Plain.mapM plain_entry _).bind fun _ => .pure _

theorem plain_pair (node : Node) : Plain (pair node) := by
  cases node with
  | scalar => exact .throw
  | collection number =>
    refine Plain.get.bind fun s => ?_
    split
    · exact (plain_item _).bind fun _ => (plain_item _).bind fun _ => .pure _
    · exact .throw

theorem plain_object (number : Nat) : Plain (object number) := by
  refine Plain.get.bind fun s => ?_
  split
  · exact (Plain.mapM plain_item _).bind fun _ => .pure _
  · exact (Plain.mapM plain_pair _).bind fun _ => .pure _
  · exact (Plain.mapM plain_pair _).bind fun _ => .pure _
  · exact (plain_entries number).bind fun _ => .pure _
  · exact (plain_entries number).bind fun _ => .pure _
  · exact .throw

/-- **What collections hold** is built without other failures, however many there are. -/
theorem plain_all (fuel : Nat) : Plain (all fuel) := by
  induction fuel with
  | zero => exact .pure ()
  | succ fuel ih =>
    refine Plain.get.bind fun s => ?_
    split
    · exact .pure ()
    · exact .throw
    · exact (Plain.set _).bind fun _ => (plain_object _).bind fun _ => (Plain.modify _).bind fun _ => ih

end Build

/-! ## Documents -/

theorem Graph.fails_value (graph : Graph) : FailsIn Fault.IsPlain graph.value := by
  refine FailsIn.bind ?_ fun ⟨root, s⟩ => ?_
  · exact ((Build.plain_item graph.root).bind fun _ => (Build.plain_all _).bind fun _ => .pure _) _
  · cases root with
    | value => exact .ok _
    | object => exact .ok _

theorem LexFault.isPlain_fault (fault : LexFault) : fault.fault.IsPlain := by
  cases fault with
  | malformed => trivial
  | longVersion => rfl
  | noCharacter code =>
    show Failure.IsPlain (if _ then _ else _)
    split <;> rfl

theorem ComposeFault.isPlain_fault (fault : ComposeFault) : fault.fault.IsPlain := by
  cases fault with
  | malformed => trivial
  | lexical fault => exact fault.isPlain_fault

theorem fails_read (text : Text) : FailsIn Fault.IsPlain (read text) := by
  have hgraph : FailsIn Fault.IsPlain (graph? text) :=
    FailsIn.mapError (fun fault _ => trivial) fun fault _ => fault.isPlain_fault
  refine hgraph.bind fun graph => ?_
  cases graph with
  | none => exact .ok _
  | some graph => exact graph.fails_value

/-- **Reading a document** fails with a fault of the notation or with a failure of one of these kinds. -/
theorem isPlain_of_readBytes {bytes : ByteArray} {cause : Failure}
    (h : readBytes bytes = .error (.failure cause)) : cause.IsPlain := by
  unfold readBytes at h
  cases hdecoded : decode? bytes with
  | none =>
    rw [hdecoded] at h
    cases h
    rfl
  | some text =>
    rw [hdecoded] at h
    exact fails_read _ _ h

end Yaml

end PhotoPublish
