import SeriesIndex.HostMatcher
import SeriesIndex.Proofs.LabelSet
import SeriesIndex.Proofs.Pattern.Whole
import SeriesIndex.Proofs.Query

/-!
# What the matchers of a host select

A matcher of a host is a number of negations around a core, which is an equality
or a pattern.  Two negations cancel, so of their number only the parity counts:
the matcher selects the label sets with a label of its name, and a value that
the core accepts if the number is even, or rejects if it is odd.  Whether it can
be built at all depends on the core alone.
-/

namespace SeriesIndex

namespace Matcher

variable {limits : Pattern.Limits} {op : MatchOp} {name value : String}
  {matcher : Matcher}

/-- A matcher is built as it was asked for. -/
theorem fields_of_build (hbuild : build limits op name value = .ok matcher) :
    matcher.op = op ∧ matcher.name = name ∧ matcher.value = value := by
  by_cases hname : name = ""
  · rw [build, dif_pos hname] at hbuild
    cases hbuild
  · rw [build, dif_neg hname] at hbuild
    split at hbuild
    · split at hbuild
      · cases hbuild
        exact ⟨rfl, rfl, rfl⟩
      · cases hbuild
    · cases hbuild
      exact ⟨rfl, rfl, rfl⟩

/-- Of a number of negations only the parity counts. -/
theorem negateTimes_eq (matcher : Matcher) (times : Nat) :
    matcher.negateTimes times =
      if Even times then matcher else matcher.negate := by
  induction times generalizing matcher with
  | zero => rfl
  | succ times ih =>
      rw [negateTimes, ih, negate_negate]
      by_cases heven : Even times
      · rw [if_pos heven, if_neg (Nat.even_add_one.not.mpr (not_not.mpr heven))]
      · rw [if_neg heven, if_pos (Nat.even_add_one.mpr heven)]

theorem negate_negateTimes (matcher : Matcher) (times : Nat) :
    (matcher.negateTimes times).negate = matcher.negateTimes (times + 1) := by
  induction times generalizing matcher with
  | zero => rfl
  | succ times ih => exact ih matcher.negate

theorem name_negateTimes (matcher : Matcher) (times : Nat) :
    (matcher.negateTimes times).name = matcher.name := by
  rw [negateTimes_eq]
  split <;> rfl

/-- An even number of negations is none, an odd number is one. -/
theorem accepts_negateTimes (matcher : Matcher) (times : Nat) (value : String) :
    (matcher.negateTimes times).accepts value = true ↔
      (matcher.accepts value = true ↔ Even times) := by
  rw [negateTimes_eq]
  by_cases heven : Even times
  · simp [heven]
  · simp [heven, accepts_negate]

end Matcher

namespace HostMatcher

/-! ## Cores -/

def nots : HostMatcher → Nat
  | equal _ _ => 0
  | regexp _ _ => 0
  | not inner => inner.nots + 1

/-- What the negations are around. -/
def core : HostMatcher → HostMatcher
  | equal name value => equal name value
  | regexp name pattern => regexp name pattern
  | not inner => inner.core

def name : HostMatcher → String
  | equal name _ => name
  | regexp name _ => name
  | not inner => inner.name

/-- The core of a matcher accepts a value: it is the value that is asked for, or
the compiled pattern matches it. -/
def CoreAccepts (limits : Pattern.Limits) : HostMatcher → String → Prop
  | equal _ expected, value => value = expected
  | regexp _ pattern, value =>
    ∃ regex, Pattern.compile limits pattern = .ok regex ∧
      regex.matches? value = true
  | not inner, value => inner.CoreAccepts limits value

theorem notTimes_not (host : HostMatcher) (times : Nat) :
    host.not.notTimes times = (host.notTimes times).not := by
  induction times generalizing host with
  | zero => rfl
  | succ times ih => exact ih host.not

/-- A matcher is its core with its negations around. -/
theorem notTimes_core (host : HostMatcher) :
    host.core.notTimes host.nots = host := by
  induction host with
  | equal name value => rfl
  | regexp name pattern => rfl
  | not inner ih =>
      calc
        inner.core.not.notTimes inner.nots =
            (inner.core.notTimes inner.nots).not := notTimes_not _ _
        _ = inner.not := congrArg HostMatcher.not ih

theorem nots_core (host : HostMatcher) : host.core.nots = 0 := by
  induction host with
  | equal name value => rfl
  | regexp name pattern => rfl
  | not inner ih => exact ih

variable {limits : Pattern.Limits} {host other : HostMatcher}

/-- The core is built, and then negated as often as is asked for. -/
theorem toMatcher_eq (limits : Pattern.Limits) (host : HostMatcher) :
    host.toMatcher limits =
      (host.core.toMatcher limits).map (Matcher.negateTimes · host.nots) := by
  have hcore : ∀ made : Except Fault Matcher,
      made = made.map (Matcher.negateTimes · 0) := fun made => by
    cases made <;> rfl
  induction host with
  | equal name value => exact hcore _
  | regexp name pattern => exact hcore _
  | not inner ih =>
      rw [toMatcher, ih, core, nots]
      cases inner.core.toMatcher limits with
      | error fault => rfl
      | ok matcher =>
          exact congrArg Except.ok
            (Matcher.negate_negateTimes matcher inner.nots)

/-- Negations do not decide whether a host matcher is converted. -/
theorem exists_toMatcher_iff :
    (∃ matcher, host.toMatcher limits = .ok matcher) ↔
      ∃ matcher, host.core.toMatcher limits = .ok matcher := by
  rw [toMatcher_eq]
  cases host.core.toMatcher limits with
  | error fault => exact iff_of_false nofun nofun
  | ok matcher => exact iff_of_true ⟨_, rfl⟩ ⟨_, rfl⟩

/-- Nor do they change why it is not. -/
theorem toMatcher_eq_error_iff {fault : Fault} :
    host.toMatcher limits = .error fault ↔
      host.core.toMatcher limits = .error fault := by
  rw [toMatcher_eq]
  cases host.core.toMatcher limits with
  | error cause => rfl
  | ok matcher => exact iff_of_false nofun nofun

/-- Matchers with one core that differ by an even number of negations are the
same matcher of the index. -/
theorem toMatcher_eq_of_even (limits : Pattern.Limits)
    (hcore : other.core = host.core)
    (heven : Even other.nots ↔ Even host.nots) :
    other.toMatcher limits = host.toMatcher limits := by
  have hnegate : (Matcher.negateTimes · other.nots) =
      (Matcher.negateTimes · host.nots) := by
    funext matcher
    rw [Matcher.negateTimes_eq, Matcher.negateTimes_eq, if_congr heven rfl rfl]
  rw [toMatcher_eq, toMatcher_eq limits host, hcore, hnegate]

/-! ## Selection -/

/-- The label set has a label of the matcher's name, with a value that the core
accepts or rejects, according to the number of negations. -/
def Selects (limits : Pattern.Limits) (host : HostMatcher) (labels : LabelSet) :
    Prop :=
  ∃ value, labels.get? host.name = some value ∧
    (host.CoreAccepts limits value ↔ Even host.nots)

/-- A core that can be built keeps its name and its meaning. -/
theorem of_toMatcher_core {matcher : Matcher}
    (hmade : host.core.toMatcher limits = .ok matcher) :
    matcher.name = host.name ∧ ∀ value,
      matcher.accepts value = true ↔ host.CoreAccepts limits value := by
  induction host with
  | equal name expected =>
      obtain ⟨hop, hname, hvalue⟩ := Matcher.fields_of_build hmade
      have hregex : matcher.op.isRegex = false := by
        rw [hop]
        rfl
      refine ⟨hname, fun value => ?_⟩
      rw [Matcher.accepts, Matcher.agrees_of_isRegex_eq_false hregex, hop,
        hvalue]
      rw [CoreAccepts, MatchOp.isNegative, Bool.bne_false, beq_iff_eq]
      exact eq_comm
  | regexp name pattern =>
      obtain ⟨hop, hname, hvalue⟩ := Matcher.fields_of_build hmade
      obtain ⟨regex, hcompile, haccepts⟩ := Matcher.accepts_of_build rfl hmade
      refine ⟨hname, fun value => ?_⟩
      rw [haccepts, CoreAccepts, hcompile]
      simp [MatchOp.isNegative]
  | not inner ih => exact ih hmade

/-- A matcher of a host that can be built selects what it says. -/
theorem selects_iff {matcher : Matcher}
    (hmade : host.toMatcher limits = .ok matcher) (labels : LabelSet) :
    matcher.Selects labels ↔ host.Selects limits labels := by
  rw [toMatcher_eq] at hmade
  cases hcore : host.core.toMatcher limits with
  | error fault =>
      rw [hcore] at hmade
      cases hmade
  | ok core =>
      rw [hcore] at hmade
      cases hmade
      obtain ⟨hname, haccepts⟩ := of_toMatcher_core hcore
      rw [Matcher.Selects, Matcher.name_negateTimes, hname]
      simp only [Matcher.accepts_negateTimes, haccepts]
      rfl

/-! ## Lists of matchers -/

/-- The matchers of a query are all built, or the first one that cannot be
built is the fault. -/
theorem toMatchers_cases (limits : Pattern.Limits) (hosts : List HostMatcher) :
    (∃ matchers, toMatchers limits hosts = .ok matchers ∧
        List.Forall₂ (fun host matcher => host.toMatcher limits = .ok matcher)
          hosts matchers) ∨
      ∃ before host after fault, hosts = before ++ host :: after ∧
        (∀ other ∈ before, ∃ matcher, other.toMatcher limits = .ok matcher) ∧
        host.toMatcher limits = .error fault ∧
        toMatchers limits hosts = .error fault := by
  induction hosts with
  | nil => exact .inl ⟨[], rfl, .nil⟩
  | cons first rest ih =>
      have hcons : toMatchers limits (first :: rest) =
          first.toMatcher limits >>= fun matcher =>
            toMatchers limits rest >>= fun matchers =>
              pure (matcher :: matchers) := List.mapM_cons
      cases hfirst : first.toMatcher limits with
      | error fault =>
          refine .inr ⟨[], first, rest, fault, rfl, by simp, hfirst, ?_⟩
          rw [hcons, hfirst]
          rfl
      | ok matcher =>
          rcases ih with ⟨matchers, hmatchers, hall⟩ |
            ⟨before, host, after, fault, rfl, hbefore, hhost, hfault⟩
          · refine .inl ⟨matcher :: matchers, ?_, .cons hfirst hall⟩
            rw [hcons, hfirst, hmatchers]
            rfl
          · refine .inr
              ⟨first :: before, host, after, fault, rfl, ?_, hhost, ?_⟩
            · exact List.forall_mem_cons.mpr ⟨⟨matcher, hfirst⟩, hbefore⟩
            · rw [hcons, hfirst, hfault]
              rfl

/-- The matchers of a query select together what those of the host do. -/
theorem forall_selects_iff {hosts : List HostMatcher} {matchers : List Matcher}
    (hall : List.Forall₂
      (fun host matcher => host.toMatcher limits = .ok matcher) hosts matchers)
    (labels : LabelSet) :
    (∀ matcher ∈ matchers, matcher.Selects labels) ↔
      ∀ host ∈ hosts, host.Selects limits labels := by
  induction hall with
  | nil => simp
  | cons hmade _ ih =>
      rw [List.forall_mem_cons, List.forall_mem_cons, ih, selects_iff hmade]

/-- Negations that cancel do not change the matchers of a query. -/
theorem toMatchers_eq_of_even (limits : Pattern.Limits)
    {hosts others : List HostMatcher}
    (hsame : List.Forall₂ (fun host other => other.core = host.core ∧
      (Even other.nots ↔ Even host.nots)) hosts others) :
    toMatchers limits others = toMatchers limits hosts := by
  induction hsame with
  | nil => rfl
  | cons hfirst _ ih =>
      have hrest : List.mapM (toMatcher limits) _ = List.mapM _ _ := ih
      rw [toMatchers, toMatchers, List.mapM_cons, List.mapM_cons, hrest,
        toMatcher_eq_of_even limits hfirst.1 hfirst.2]

end HostMatcher

end SeriesIndex
