import NodeTelemetry.Time.Span

/-!
# Control parameters

The parameters that steer sampling while the collector runs. A scrape interval
below one second is refused; all else is accepted. The retention bound says how
many files one instance may keep.
-/

namespace NodeTelemetry

/-- The parameters of one moment; they are replaced as a whole. -/
structure Control where
  enabled : Bool
  /-- From activation to the first sample. -/
  grace : Span
  /-- From one sample to the next. -/
  scrape : Span
  /-- The greatest age of a retained snapshot. -/
  keep : Span
  deriving DecidableEq, Repr, Inhabited

/-- Why parameters are refused: the scrape interval is below the minimum. -/
inductive ControlFault where
  | scrapeTooShort (got : Span)
  deriving DecidableEq, Repr

/-- The shortest scrape interval that is accepted. -/
def minScrape : Span := Span.ofParts 1 0

def ControlFault.text : ControlFault → String
  | .scrapeTooShort got =>
    "scrape_interval must be at least " ++ minScrape.secs.repr ++ "s, got " ++ got.text

namespace Control

/-- Accepts parameters whose scrape interval is not below the minimum. -/
def validate (c : Control) : Except ControlFault Unit :=
  if c.scrape.nanos < minScrape.nanos then .error (.scrapeTooShort c.scrape) else .ok ()

def Valid (c : Control) : Prop := minScrape.nanos ≤ c.scrape.nanos

instance (c : Control) : Decidable c.Valid := inferInstanceAs (Decidable (_ ≤ _))

theorem validate_eq_ok_iff (c : Control) : c.validate = .ok () ↔ c.Valid := by
  unfold validate Valid
  split <;> simp_all

/-- The least number of intervals of length `b` that cover a length `a`. -/
def ceilDiv (a b : Nat) : Nat := (a + b - 1) / b

/-- How many files one instance retains at most: the scrape intervals that cover the keep interval,
    in whole milliseconds, and one more. A bound that does not fit a word is the greatest word. -/
def retentionBound (c : Control) : UInt64 :=
  Word.addCapped (Word.cap (ceilDiv c.keep.millis (max c.scrape.millis 1))) 1

end Control

/-- A request to change some of the parameters. -/
structure ControlChange where
  enabled : Option Bool := none
  grace : Option Span := none
  scrape : Option Span := none
  keep : Option Span := none
  deriving DecidableEq, Repr, Inhabited

def ControlChange.apply (r : ControlChange) (c : Control) : Control :=
  { enabled := r.enabled.getD c.enabled
    grace := r.grace.getD c.grace
    scrape := r.scrape.getD c.scrape
    keep := r.keep.getD c.keep }

end NodeTelemetry
