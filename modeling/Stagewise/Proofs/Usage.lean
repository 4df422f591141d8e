import Stagewise.Generation.Run

/-! Counts of tokens are capped sums. Adding up capped counts one by one gives the cap of their exact
sum, so the order in which they come does not matter. -/

namespace Stagewise

/-- The greatest count. -/
def tokenCap : Nat := UInt64.size - 1

/-- What the replies report of one kind of tokens, all added up without a cap. -/
def reportedTokens (part : TokenUsage → UInt64) : List (Option TokenUsage) → Nat
  | [] => 0
  | none :: rest => reportedTokens part rest
  | some usage :: rest => (part usage).toNat + reportedTokens part rest

theorem reportedTokens_cons (part : TokenUsage → UInt64) (reported : Option TokenUsage)
    (rest : List (Option TokenUsage)) :
    reportedTokens part (reported :: rest) =
      reportedTokens part [reported] + reportedTokens part rest := by
  cases reported with
  | none => exact (Nat.zero_add _).symm
  | some usage => rfl

theorem reportedTokens_perm (part : TokenUsage → UInt64) {l l' : List (Option TokenUsage)}
    (h : l.Perm l') : reportedTokens part l = reportedTokens part l' := by
  induction h with
  | nil => rfl
  | cons reported _ ih =>
    rw [reportedTokens_cons, ih, ← reportedTokens_cons]
  | swap first second rest =>
    have hfirst := reportedTokens_cons part first rest
    have hsecond := reportedTokens_cons part second rest
    rw [reportedTokens_cons part second, reportedTokens_cons part first (second :: rest)]
    omega
  | trans _ _ ih ih' => exact ih.trans ih'

theorem toNat_le_tokenCap (a : UInt64) : a.toNat ≤ tokenCap :=
  Nat.le_pred_of_lt a.toNat_lt

theorem toNat_cappedAdd (a b : UInt64) :
    (cappedAdd a b).toNat = min (a.toNat + b.toNat) tokenCap := by
  have hlt : min (a.toNat + b.toNat) (UInt64.size - 1) < UInt64.size :=
    Nat.lt_of_le_of_lt (Nat.min_le_right _ _) (by decide)
  exact UInt64.toNat_ofNat_of_lt' hlt

namespace TokenUsage

/-- The parts of a usage, each added up for itself. -/
structure AddsUp (part : TokenUsage → UInt64) : Prop where
  zero : (part zero).toNat = 0
  add : ∀ a b : TokenUsage, part (a.add b) = cappedAdd (part a) (part b)

theorem addsUp_promptTokens : AddsUp promptTokens := ⟨rfl, fun _ _ => rfl⟩

theorem addsUp_responseTokens : AddsUp responseTokens := ⟨rfl, fun _ _ => rfl⟩

theorem AddsUp.addUsage {part : TokenUsage → UInt64} (h : AddsUp part) (usage : TokenUsage)
    (reported : Option TokenUsage) :
    (part (Generator.addUsage usage reported)).toNat =
      min ((part usage).toNat + reportedTokens part [reported]) tokenCap := by
  cases reported with
  | none =>
    have hle := toNat_le_tokenCap (part usage)
    simp only [Generator.addUsage, reportedTokens]
    omega
  | some more =>
    rw [Generator.addUsage, h.add, toNat_cappedAdd]
    rfl

/-- What is cut off by the cap stays cut off, as what follows only adds to it. -/
theorem AddsUp.foldl {part : TokenUsage → UInt64} (h : AddsUp part) (usage : TokenUsage)
    (reported : List (Option TokenUsage)) :
    (part (reported.foldl Generator.addUsage usage)).toNat =
      min ((part usage).toNat + reportedTokens part reported) tokenCap := by
  induction reported generalizing usage with
  | nil => exact (Nat.min_eq_left (toNat_le_tokenCap (part usage))).symm
  | cons first rest ih =>
    rw [List.foldl_cons, ih, h.addUsage, reportedTokens_cons part first rest]
    omega

end TokenUsage

/-- The measures tell the exact sums of what was reported, each up to the cap. -/
structure GenerationMetrics.Counts (m : GenerationMetrics) (reported : List (Option TokenUsage)) :
    Prop where
  prompt : m.promptTokens.toNat = min (reportedTokens TokenUsage.promptTokens reported) tokenCap
  response : m.responseTokens.toNat =
    min (reportedTokens TokenUsage.responseTokens reported) tokenCap
  total : m.totalTokens.toNat =
    min (reportedTokens TokenUsage.promptTokens reported +
      reportedTokens TokenUsage.responseTokens reported) tokenCap

theorem GenerationMetrics.counts_ofUsage (reported : List (Option TokenUsage)) (elapsedMs : Nat) :
    (ofUsage (reported.foldl Generator.addUsage .zero) elapsedMs).Counts reported := by
  have hprompt := TokenUsage.addsUp_promptTokens.foldl .zero reported
  have hresponse := TokenUsage.addsUp_responseTokens.foldl .zero reported
  rw [TokenUsage.addsUp_promptTokens.zero, Nat.zero_add] at hprompt
  rw [TokenUsage.addsUp_responseTokens.zero, Nat.zero_add] at hresponse
  refine ⟨hprompt, hresponse, ?_⟩
  have htotal := toNat_cappedAdd (reported.foldl Generator.addUsage .zero).promptTokens
    (reported.foldl Generator.addUsage .zero).responseTokens
  rw [hprompt, hresponse] at htotal
  refine htotal.trans ?_
  omega

end Stagewise
