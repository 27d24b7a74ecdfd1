import SeriesIndex.Proofs.MatcherEquality

/-!
# Matchers of a host, there and back

A host writes a matcher as negations around a core, and the index as one of four
operators.  A matcher of the index that was built under some limits can be
written for a host and is read back under these limits as it was.  In the other
direction the negations are reduced to one or none, so a host gets back what it
wrote if it wrote one negation at most, and otherwise something that means the
same.
-/

namespace SeriesIndex

namespace HostMatcher

variable {limits : Pattern.Limits} {host : HostMatcher} {matcher : Matcher}

/-! ## From the index and back -/

/-- What is written for a host is read as the parts of the matcher. -/
theorem toMatcher_ofMatcher (limits : Pattern.Limits) (matcher : Matcher) :
    (ofMatcher matcher).toMatcher limits =
      Matcher.build limits matcher.op matcher.name matcher.value := by
  cases hop : matcher.op with
  | equal => simp only [ofMatcher, hop, toMatcher]
  | notEqual =>
      simp only [ofMatcher, hop, toMatcher]
      exact (Matcher.build_negate limits .equal _ _).symm
  | regex => simp only [ofMatcher, hop, toMatcher]
  | notRegex =>
      simp only [ofMatcher, hop, toMatcher]
      exact (Matcher.build_negate limits .regex _ _).symm

/-! ## From a host and back -/

theorem nots_notTimes (host : HostMatcher) (times : Nat) :
    (host.notTimes times).nots = host.nots + times := by
  induction times generalizing host with
  | zero => rfl
  | succ times ih =>
      rw [notTimes, ih, nots]
      omega

/-- A core that can be built is written as it was, and its negation as the core
with one negation around. -/
theorem ofMatcher_of_toMatcher_core
    (hmade : host.core.toMatcher limits = .ok matcher) :
    ofMatcher matcher = host.core ∧
      ofMatcher matcher.negate = host.core.not := by
  induction host with
  | equal name value =>
      obtain ⟨hop, hname, hvalue⟩ := Matcher.fields_of_build hmade
      simp [ofMatcher, Matcher.negate, hop, hname, hvalue, MatchOp.negate, core]
  | regexp name pattern =>
      obtain ⟨hop, hname, hvalue⟩ := Matcher.fields_of_build hmade
      simp [ofMatcher, Matcher.negate, hop, hname, hvalue, MatchOp.negate, core]
  | not inner ih => exact ih hmade

/-- Of the negations around a core, two at a time are lost. -/
theorem ofMatcher_of_toMatcher (hmade : host.toMatcher limits = .ok matcher) :
    ofMatcher matcher = host.core.notTimes (host.nots % 2) := by
  rw [toMatcher_eq] at hmade
  cases hcore : host.core.toMatcher limits with
  | error fault =>
      rw [hcore] at hmade
      cases hmade
  | ok made =>
      rw [hcore] at hmade
      cases hmade
      obtain ⟨hsame, hnegate⟩ := ofMatcher_of_toMatcher_core hcore
      dsimp only
      rw [Matcher.negateTimes_eq]
      by_cases heven : Even host.nots
      · rw [if_pos heven, Nat.even_iff.mp heven]
        exact hsame
      · rw [if_neg heven, Nat.not_even_iff.mp heven]
        exact hnegate

/-- One negation is kept as it is, and so is none. -/
theorem notTimes_core_eq_iff (host : HostMatcher) :
    host.core.notTimes (host.nots % 2) = host ↔ host.nots ≤ 1 := by
  constructor
  · intro hsame
    have hnots := congrArg nots hsame
    rw [nots_notTimes, nots_core] at hnots
    omega
  · intro hle
    rw [Nat.mod_eq_of_lt (Nat.lt_succ_of_le hle), notTimes_core]

/-- What comes of the matcher of a host, and how it is written afterwards. -/
structure Returns (limits : Pattern.Limits) (host : HostMatcher) : Prop where
  eq_notTimes : host = host.core.notTimes host.nots
  nots_core : host.core.nots = 0
  ok_iff : (∃ matcher, host.toMatcher limits = .ok matcher) ↔
    ∃ matcher, host.core.toMatcher limits = .ok matcher
  error_iff : ∀ fault, host.toMatcher limits = .error fault ↔
    host.core.toMatcher limits = .error fault
  ofMatcher_eq : ∀ matcher, host.toMatcher limits = .ok matcher →
    ofMatcher matcher = host.core.notTimes (host.nots % 2)
  unchanged_iff : ∀ matcher, host.toMatcher limits = .ok matcher →
    (ofMatcher matcher = host ↔ host.nots ≤ 1)
  again : ∀ matcher, host.toMatcher limits = .ok matcher →
    (ofMatcher matcher).toMatcher limits = .ok matcher

/-- What a host matcher comes to comes back. -/
theorem returns (limits : Pattern.Limits) (host : HostMatcher) :
    host.Returns limits where
  eq_notTimes := host.notTimes_core.symm
  nots_core := host.nots_core
  ok_iff := exists_toMatcher_iff
  error_iff _ := toMatcher_eq_error_iff
  ofMatcher_eq _ hmade := ofMatcher_of_toMatcher hmade
  unchanged_iff matcher hmade := by
    rw [ofMatcher_of_toMatcher hmade]
    exact host.notTimes_core_eq_iff
  again matcher hmade := by
    rw [toMatcher_ofMatcher]
    exact Matcher.rebuilds_of_toMatcher hmade

/-! ## Lists of matchers -/

/-- What comes of a list of matchers: each of them in its place, or the fault of
the first one that cannot be built. -/
inductive Converts (limits : Pattern.Limits) (hosts : List HostMatcher) :
    Except Fault (List Matcher) → Prop where
  | converted {matchers : List Matcher}
      (hall : List.Forall₂ (fun host matcher =>
        host.toMatcher limits = .ok matcher) hosts matchers) :
      Converts limits hosts (.ok matchers)
  | refused {before after : List HostMatcher} {host : HostMatcher}
      {fault : Fault} (hhosts : hosts = before ++ host :: after)
      (hbefore : ∀ other ∈ before,
        ∃ matcher, other.toMatcher limits = .ok matcher)
      (hfault : host.toMatcher limits = .error fault) :
      Converts limits hosts (.error fault)

/-- A list is converted as a whole, or refused for its first fault. -/
theorem converts (limits : Pattern.Limits) (hosts : List HostMatcher) :
    Converts limits hosts (toMatchers limits hosts) := by
  rcases toMatchers_cases limits hosts with
    ⟨matchers, hmatchers, hall⟩ |
    ⟨before, host, after, fault, hhosts, hbefore, hhost, hfault⟩
  · rw [hmatchers]
    exact .converted hall
  · rw [hfault]
    exact .refused hhosts hbefore hhost

/-- A matcher that was built under some limits, negated or not, is read back
under them as it is written for a host; the matcher of a host comes back with
its negations reduced to their parity; and lists are converted in their order,
up to the first matcher that is refused. -/
theorem conversions_return (limits : Pattern.Limits) :
    (∀ op name value matcher,
      Matcher.build limits op name value = .ok matcher → ∀ times,
        (ofMatcher (matcher.negateTimes times)).toMatcher limits =
          .ok (matcher.negateTimes times)) ∧
    (∀ host : HostMatcher, host.Returns limits) ∧
    ∀ hosts, Converts limits hosts (toMatchers limits hosts) := by
  refine ⟨fun op name value matcher hbuild times => ?_, returns limits,
    converts limits⟩
  rw [toMatcher_ofMatcher]
  exact (Matcher.rebuilds_of_build hbuild).negateTimes times

/-- Two negations around an equality are lost, and three around the matcher of
the index are written as one. -/
theorem conversions_return_equality :
    ∃ matcher, Matcher.build {} .equal "job" "api" = .ok matcher ∧
      (ofMatcher (matcher.negateTimes 3)).toMatcher {} =
        .ok (matcher.negateTimes 3) ∧
      ((equal "job" "api").notTimes 2).toMatcher {} = .ok matcher ∧
      ofMatcher matcher = equal "job" "api" ∧
      ofMatcher matcher ≠ (equal "job" "api").notTimes 2 := by
  obtain ⟨hback, hreturns, -⟩ := conversions_return {}
  have hbuild : ∃ matcher,
      Matcher.build {} .equal "job" "api" = .ok matcher := ⟨_, rfl⟩
  obtain ⟨matcher, hmatcher⟩ := hbuild
  have hmade :
      ((equal "job" "api").notTimes 2).toMatcher {} = .ok matcher := by
    have hcore : (equal "job" "api").toMatcher {} = .ok matcher := hmatcher
    rw [notTimes, notTimes, notTimes, toMatcher, toMatcher, hcore]
    exact congrArg Except.ok matcher.negate_negate
  have hhost := hreturns ((equal "job" "api").notTimes 2)
  refine ⟨matcher, hmatcher, hback _ _ _ _ hmatcher 3, hmade,
    hhost.ofMatcher_eq _ hmade, ?_⟩
  rw [ne_eq, hhost.unchanged_iff _ hmade]
  decide

end HostMatcher

end SeriesIndex
