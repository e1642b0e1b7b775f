import PhotoPublish.Number.Reading
import PhotoPublish.Progress

/-!
# Summaries of conversions

A `ConversionResult` counts what happened to the photos of one collection. A `ConversionSummary` adds up
the results of a run, and `ConversionSummary.message` reports them.
-/

set_option autoImplicit false

namespace PhotoPublish

/-- The photos of a collection, how many of them were processed, converted, and could not be converted. -/
structure ConversionResult where
  photos : Int := 0
  processed : Int := 0
  converted : Int := 0
  failed : Int := 0
deriving DecidableEq, Repr, Inhabited

/-- The results of a run, the number of collections, and the seconds that it took. -/
structure ConversionSummary where
  photos : Int := 0
  processed : Int := 0
  converted : Int := 0
  failed : Int := 0
  collections : Int := 0
  elapsed : Value := .real (.finite 0)

instance : Inhabited ConversionSummary :=
  ⟨{}⟩

namespace ConversionSummary

/-- The summary with another result. -/
def add (summary : ConversionSummary) (result : ConversionResult) : ConversionSummary :=
  { summary with
    photos := summary.photos + result.photos
    processed := summary.processed + result.processed
    converted := summary.converted + result.converted
    failed := summary.failed + result.failed }

/-- The quotient of two whole numbers, of which the second is positive. -/
def quotient (num den : Int) : Except Failure Binary64 :=
  match Binary64.ofRatio num den.toNat with
  | .infinite _ => .error .quotientTooLarge
  | x => .ok x

/-- Processed photos per second; zero if no time has passed. -/
def rate (summary : ConversionSummary) : Except Failure Binary64 :=
  let zero : Binary64 := .finite 0
  match summary.elapsed with
  | .whole n => if 0 < n then quotient summary.processed n else .ok zero
  | .bool b => if b then quotient summary.processed 1 else .ok zero
  | .real x =>
    if x.isPositive then do
      let processed ← ProgressScope.toReal (.whole summary.processed)
      return processed.div x
    else .ok zero
  | _ => .error .wrongType

/-- One half. -/
def half : Binary64 :=
  Binary64.ofRatio 1 2

/-- The seconds that the run took, rounded by adding a half and cutting off. -/
def roundedSeconds (summary : ConversionSummary) : Except Failure Int := do
  let x := (← ProgressScope.toReal summary.elapsed).add half
  match x, x.truncate? with
  | .nan, _ => throw .nanToWhole
  | _, some n => return n
  | _, none => throw .infinityToWhole

/-- The report of a run. -/
def message (summary : ConversionSummary) : Except Failure Text := do
  let seconds ← summary.roundedSeconds
  let rate ← summary.rate
  let report := "Photo StatLr: Processed ".toList ++ Numeral.ofInt summary.processed ++
    " of ".toList ++ Numeral.ofInt summary.photos ++ " photos in ".toList ++
    Numeral.ofInt summary.collections ++ " collections, ".toList ++
    Numeral.ofInt summary.converted ++ " converted in ".toList ++ Numeral.ofInt seconds ++
    " seconds (".toList ++ rate.fixed 1 ++ " pic/sec).".toList
  let failures := if summary.failed = 0 then []
    else ' ' :: Numeral.ofInt summary.failed ++ " photos failed.".toList
  return report ++ failures

/-- The text that shows a summary. -/
def shown (summary : ConversionSummary) : Except Failure Text := do
  let elapsed ← ProgressScope.toReal summary.elapsed
  let field (name : String) (text : Text) : Text := name.toList ++ '=' :: text
  return Value.quotedCall "ConversionSummary"
    [field "photos" (Numeral.ofInt summary.photos),
      field "processed" (Numeral.ofInt summary.processed),
      field "converted" (Numeral.ofInt summary.converted),
      field "failed" (Numeral.ofInt summary.failed),
      field "collections" (Numeral.ofInt summary.collections),
      field "elapsed" (elapsed.fixed 1)]

end ConversionSummary

end PhotoPublish
