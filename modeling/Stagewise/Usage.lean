import Stagewise.Json.Shape

/-! Counts of the tokens that models report, and what is measured of one generation. Counts never
wrap: one that would pass the greatest word stays at it. -/

namespace Stagewise

/-- The sum of two counts, at most the greatest word. -/
def cappedAdd (a b : UInt64) : UInt64 :=
  UInt64.ofNat (min (a.toNat + b.toNat) (UInt64.size - 1))

structure TokenUsage where
  promptTokens : UInt64
  responseTokens : UInt64
deriving DecidableEq

namespace TokenUsage

def zero : TokenUsage := ⟨0, 0⟩

def add (a b : TokenUsage) : TokenUsage :=
  ⟨cappedAdd a.promptTokens b.promptTokens, cappedAdd a.responseTokens b.responseTokens⟩

def total (u : TokenUsage) : UInt64 :=
  cappedAdd u.promptTokens u.responseTokens

def decoder : Decoder TokenUsage :=
  (((Fields.done TokenUsage.mk).and (.required "promptTokens" Decoder.word64)).and
    (.required "responseTokens" Decoder.word64)).decoder "TokenUsage"

def toJson (u : TokenUsage) : Json :=
  .ofFields
    [("promptTokens", .int u.promptTokens.toNat),
     ("responseTokens", .int u.responseTokens.toNat)]

end TokenUsage

structure GenerationMetrics where
  promptTokens : UInt64
  responseTokens : UInt64
  totalTokens : UInt64
  processingTimeMs : UInt64
deriving DecidableEq

namespace GenerationMetrics

/-- The measures of a generation that took the given milliseconds. -/
def ofUsage (usage : TokenUsage) (elapsedMs : Nat) : GenerationMetrics where
  promptTokens := usage.promptTokens
  responseTokens := usage.responseTokens
  totalTokens := usage.total
  processingTimeMs := UInt64.ofNat (min elapsedMs (UInt64.size - 1))

def decoder : Decoder GenerationMetrics :=
  (((((Fields.done GenerationMetrics.mk).and (.required "promptTokens" Decoder.word64)).and
    (.required "responseTokens" Decoder.word64)).and
    (.required "totalTokens" Decoder.word64)).and
    (.required "processingTimeMs" Decoder.word64)).decoder "GenerationMetrics"

def toJson (m : GenerationMetrics) : Json :=
  .ofFields
    [("promptTokens", .int m.promptTokens.toNat),
     ("responseTokens", .int m.responseTokens.toNat),
     ("totalTokens", .int m.totalTokens.toNat),
     ("processingTimeMs", .int m.processingTimeMs.toNat)]

end GenerationMetrics

end Stagewise
