import SeriesIndex.Proofs.HostMatcher
import SeriesIndex.Proofs.Index.EntryPoints

/-!
# Queries of a host

A host asks with matchers of its own.  They are built before the index is asked,
so a matcher that cannot be built leaves the index as it was, and so do bounds
the wrong way round.  Otherwise the answers are the series of the window that
every matcher selects, in which negations count by their parity alone.
-/

namespace SeriesIndex.Index

variable {index : Index} {limits : Pattern.Limits}

def Usable (limits : Pattern.Limits) (host : HostMatcher) : Prop :=
  ∃ matcher, host.core.toMatcher limits = .ok matcher

/-- What comes of a host's query: the outcome, and the index after it. -/
inductive HostVerdict (index : Index) (limits : Pattern.Limits)
    (hosts : List HostMatcher) (start stop : Timestamp) :
    Except Fault (List Tsid) × Index → Prop where
  /-- The first matcher whose core cannot be built is the fault. -/
  | unusable {before after : List HostMatcher} {host : HostMatcher}
      {fault : Fault} (hhosts : hosts = before ++ host :: after)
      (hbefore : ∀ other ∈ before, Usable limits other)
      (hfault : host.core.toMatcher limits = .error fault) :
      HostVerdict index limits hosts start stop (.error fault, index)
  | inverted (husable : ∀ host ∈ hosts, Usable limits host)
      (hbounds : stop < start) :
      HostVerdict index limits hosts start stop
        (.error (.argument (.invertedWindow start stop)), index)
  | answered {tsids : List Tsid} (husable : ∀ host ∈ hosts, Usable limits host)
      (hbounds : start ≤ stop) (hascending : tsids.Pairwise (· < ·))
      (hmem : ∀ tsid, tsid ∈ tsids ↔
        ∃ labels, index.Active ⟨start, stop⟩ tsid labels ∧
          ∀ host ∈ hosts, ∃ value, labels.get? host.name = some value ∧
            (host.CoreAccepts limits value ↔ Even host.nots)) :
      HostVerdict index limits hosts start stop (.ok tsids, index.countResolve)

theorem usable_of_forall₂ {matchers : List Matcher} {hosts : List HostMatcher}
    (hall : List.Forall₂ (fun host matcher =>
      host.toMatcher limits = .ok matcher) hosts matchers) :
    ∀ host ∈ hosts, Usable limits host := by
  induction hall with
  | nil => exact fun host hhost => absurd hhost List.not_mem_nil
  | cons hmade _ ih =>
      exact List.forall_mem_cons.mpr
        ⟨HostMatcher.exists_toMatcher_iff.mp ⟨_, hmade⟩, ih⟩

/-- A query of a host ends in one of the ways that its verdict allows. -/
theorem Regular.hostVerdict (hregular : index.Regular) (limits : Pattern.Limits)
    (hosts : List HostMatcher) (start stop : Timestamp) :
    index.HostVerdict limits hosts start stop
      (index.resolveHost limits hosts start stop) := by
  rcases HostMatcher.toMatchers_cases limits hosts with
    ⟨matchers, hmatchers, hall⟩ |
    ⟨before, host, after, fault, hhosts, hbefore, hhost, hfault⟩
  · have husable := usable_of_forall₂ hall
    simp only [resolveHost, hmatchers]
    by_cases hbounds : stop < start
    · rw [index.resolve_of_lt matchers hbounds]
      exact .inverted husable hbounds
    · have hle := Int64.not_lt.mp hbounds
      rw [hregular.resolve_eq matchers hle]
      apply HostVerdict.answered husable hle
      · exact hregular.settled.toConsistent.answers_ascending matchers _
      · intro tsid
        rw [hregular.mem_answers_iff]
        simp only [HostMatcher.forall_selects_iff hall]
        rfl
  · simp only [resolveHost, hfault]
    refine .unusable hhosts ?_ (HostMatcher.toMatcher_eq_error_iff.mp hhost)
    intro other hother
    exact HostMatcher.exists_toMatcher_iff.mp (hbefore other hother)

/-! ## Negations -/

/-- One more negation around a single matcher leaves the series of the window
that have a label of its name, without those that it selected. -/
theorem HostVerdict.answers_not {host : HostMatcher} {start stop : Timestamp}
    {tsids others : List Tsid} {after last : Index}
    (hverdict : index.HostVerdict limits [host] start stop (.ok tsids, after))
    (hnot : index.HostVerdict limits [host.not] start stop (.ok others, last))
    (tsid : Tsid) :
    tsid ∈ others ↔
      (∃ labels value, index.Active ⟨start, stop⟩ tsid labels ∧
        labels.get? host.name = some value) ∧ tsid ∉ tsids := by
  cases hverdict with
  | answered _ _ _ hmem =>
      cases hnot with
      | answered _ _ _ hother =>
          simp only [hmem, hother, List.forall_mem_singleton,
            HostMatcher.nots, Nat.even_add_one]
          constructor
          · rintro ⟨labels, hactive, value, hvalue, hrejects⟩
            refine ⟨⟨labels, value, hactive, hvalue⟩, ?_⟩
            rintro ⟨others, hothers, found, hfound, haccepts⟩
            obtain rfl : labels = others :=
              Except.ok.inj (hactive.1.symm.trans hothers.1)
            obtain rfl : value = found :=
              Option.some.inj (hvalue.symm.trans hfound)
            exact not_iff_self (hrejects.symm.trans haccepts)
          · rintro ⟨⟨labels, value, hactive, hvalue⟩, hnone⟩
            have hrejects : ¬(host.CoreAccepts limits value ↔ Even host.nots) :=
              fun haccepts => hnone ⟨labels, hactive, value, hvalue, haccepts⟩
            refine ⟨labels, hactive, value, hvalue, ?_⟩
            exact (not_iff_comm.mp (not_iff.mp hrejects)).symm

/-- A single matcher can be asked with one more negation. -/
theorem HostVerdict.exists_answers_not {host : HostMatcher}
    {start stop : Timestamp} {tsids : List Tsid} {after last : Index}
    {outcome : Except Fault (List Tsid)}
    (hverdict : index.HostVerdict limits [host] start stop (.ok tsids, after))
    (hnot : index.HostVerdict limits [host.not] start stop (outcome, last)) :
    ∃ others, outcome = .ok others := by
  cases hverdict with
  | answered husable hbounds _ _ =>
      obtain ⟨matcher, hmatcher⟩ := husable host (List.mem_singleton.mpr rfl)
      cases hnot with
      | @unusable before _ other _ hhosts _ hfault =>
          have hmem : other ∈ [host.not] := by
            rw [hhosts]
            exact List.mem_append_right before List.mem_cons_self
          rw [List.mem_singleton.mp hmem] at hfault
          cases hmatcher.symm.trans hfault
      | inverted _ hinverted =>
          exact absurd hinverted (Int64.not_lt.mpr hbounds)
      | answered _ _ _ _ => exact ⟨_, rfl⟩

/-- A matcher of a host is a core with a number of negations around.  A query
with such matchers fails with the fault of the first one whose core cannot be
built, or else if its bounds are the wrong way round, and then leaves the index
as it was.  Otherwise it is counted, and it lists in ascending order the series
of the window that have, for every matcher, a label of its name with a value
that the core accepts if the negations are even in number, and rejects if they
are odd.  Negations that are added in pairs change nothing, and one that is
added to a single matcher gives the other series of the window that have the
label. -/
theorem resolveHost_verdict (hreach : index.Reachable) (limits : Pattern.Limits)
    (hosts : List HostMatcher) (start stop : Timestamp) :
    (∀ host ∈ hosts, host.core.nots = 0 ∧
      host.core.notTimes host.nots = host) ∧
    index.HostVerdict limits hosts start stop
      (index.resolveHost limits hosts start stop) ∧
    (∀ others, List.Forall₂ (fun host other =>
        HostMatcher.core other = host.core ∧
          (Even other.nots ↔ Even host.nots)) hosts others →
      index.resolveHost limits others start stop =
        index.resolveHost limits hosts start stop) ∧
    ∀ host tsids, (index.resolveHost limits [host] start stop).1 = .ok tsids →
      ∃ others,
        (index.resolveHost limits [host.not] start stop).1 = .ok others ∧
        ∀ tsid, tsid ∈ others ↔
          (∃ labels value, index.Active ⟨start, stop⟩ tsid labels ∧
            labels.get? host.name = some value) ∧ tsid ∉ tsids := by
  have hregular := hreach.regular
  refine ⟨?_, hregular.hostVerdict limits hosts start stop, ?_, ?_⟩
  · exact fun host _ => ⟨host.nots_core, host.notTimes_core⟩
  · intro others hsame
    rw [resolveHost, resolveHost,
      HostMatcher.toMatchers_eq_of_even limits hsame]
  · intro host tsids htsids
    have hverdict := hregular.hostVerdict limits [host] start stop
    have hnot := hregular.hostVerdict limits [host.not] start stop
    cases hfirst : index.resolveHost limits [host] start stop with
    | mk outcome after =>
        cases hsecond : index.resolveHost limits [host.not] start stop with
        | mk other last =>
            rw [hfirst] at hverdict htsids
            rw [hsecond] at hnot
            obtain rfl : outcome = .ok tsids := htsids
            obtain ⟨others, rfl⟩ := hverdict.exists_answers_not hnot
            exact ⟨others, rfl, hverdict.answers_not hnot⟩

theorem resolveHost_verdict_seenTwice :
    seenTwice.Reachable ∧
      seenTwice.HostVerdict {} [.not (.equal "a" "2")] 0 400
        (seenTwice.resolveHost {} [.not (.equal "a" "2")] 0 400) ∧
      (seenTwice.resolveHost {} [.not (.equal "a" "2")] 0 400).1 = .ok [1] ∧
      (seenTwice.resolveHost {} [.not (.equal "b" "1")] 0 400).1 = .ok [] := by
  obtain ⟨-, hverdict, -⟩ := resolveHost_verdict reachable_seenTwice {}
    [.not (.equal "a" "2")] 0 400
  refine ⟨reachable_seenTwice, hverdict, ?_, ?_⟩
  · decide +kernel
  · decide +kernel

end SeriesIndex.Index
