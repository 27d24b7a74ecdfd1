import Mathlib
import SeriesIndex.Proofs.Index.Chronicle
import SeriesIndex.Proofs.Store.Renumbered

/-!
# Registrations in another order

As long as there is room for everything that is new, a call is accepted or
refused by what it is alone.  The same calls in another order are therefore
accepted and refused alike, and lead to the same label sets over the same
intervals.  Only the numbers of the new label sets depend on the order, and the
same numbers are used: a bijection of numbers that leaves the old ones alone
takes all answers of one index to those of the other.
-/

namespace SeriesIndex

theorem Store.Settled.recorded_snapshot {store : Store}
    (hsettled : store.Settled) : store.Recorded store.catalog.snapshot where
  stored sighting hmem :=
    ⟨sighting, hsettled.mem_snapshot.mp hmem, rfl, .refl _⟩
  earliest tsid series hseries := by
    obtain rfl := hsettled.tsid_eq tsid series hseries
    exact ⟨series, hsettled.mem_snapshot.mpr hseries, rfl, rfl, rfl⟩
  latest tsid series hseries := by
    obtain rfl := hsettled.tsid_eq tsid series hseries
    exact ⟨series, hsettled.mem_snapshot.mpr hseries, rfl, rfl, rfl⟩

theorem Store.sightedOver_append {left right : List Series} {labels : LabelSet}
    {interval : Activity} :
    Store.SightedOver (left ++ right) labels interval ↔
      Store.SightedOver left labels interval ∨
        Store.SightedOver right labels interval := by
  simp only [Store.SightedOver, List.mem_append, or_and_right, exists_or]

namespace Index

variable {index : Index} {settings : Settings} {call : Call}
  {calls others : List Call}

/-- The label sets with which some calls get through to the store. -/
def arriving (settings : Settings) (calls : List Call) : List LabelSet :=
  calls.filterMap fun call => (call.check settings).toOption

/-- There is room for all label sets of some calls that are new and within the
limits: the limit leaves enough places, and there are enough numbers. -/
structure Accommodates (index : Index) (calls : List Call) : Prop where
  room : index.settings.seriesLimit = 0 ∨
    index.seriesCount +
        (index.store.newcomers (arriving index.settings calls)).length ≤
      index.settings.seriesLimit
  numbers : index.store.catalog.nextTsid.toNat +
    (index.store.newcomers (arriving index.settings calls)).length ≤
      Tsid.last.toNat

def transcript (index : Index) :
    List Call → List (Call × Except Fault Store.Registration)
  | [] => []
  | call :: rest =>
    (call, (index.perform call).1) :: (index.perform call).2.transcript rest

/-- The counters after a call that is accepted if it passes its check. -/
def Call.tally (settings : Settings) (counters : Counters) (call : Call) :
    Counters :=
  if call.isCounted then
    counters.count ((call.check settings).mapError Fault.labels)
  else counters

/-! ## Single calls -/

/-- What becomes of a call where there is room for it: only its own faults are
held against it. -/
inductive Call.Gets (settings : Settings) (call : Call) (after : Store) :
    Except Fault Store.Registration → Prop where
  | refusal {cause : LabelFault} (hcheck : call.check settings = .error cause) :
      Gets settings call after (.error (.labels cause))
  | number {labels : LabelSet} {registration : Store.Registration}
      (hcheck : call.check settings = .ok labels)
      (hkey : after.catalog.lookup? labels = some registration.tsid) :
      Gets settings call after (.ok registration)

section Gets

variable {after later : Store} {outcome : Except Fault Store.Registration}

theorem Call.Gets.grows (hgets : call.Gets settings after outcome)
    (hgrows : after.Grows later) : call.Gets settings later outcome := by
  cases hgets with
  | refusal hcheck => exact .refusal hcheck
  | number hcheck hkey => exact .number hcheck (hgrows.key _ _ hkey)

theorem Call.Gets.labelSets_eq (hgets : call.Gets settings after outcome) :
    labelSets (acceptance call outcome) = arriving settings [call] := by
  cases hgets with
  | refusal hcheck =>
      rw [arriving, List.filterMap_cons_none (by rw [hcheck]; rfl)]
      rfl
  | number hcheck hkey =>
      rw [labelSets_acceptance (Call.check_eq_ok_iff.mp hcheck).1, arriving,
        List.filterMap_cons_some (by rw [hcheck]; rfl)]
      rfl

theorem Call.Gets.calls_eq (hgets : call.Gets settings after outcome) :
    (acceptance call outcome).map Prod.fst =
      [call].filter fun call => (call.check settings).isOk := by
  cases hgets with
  | refusal hcheck => rw [List.filter_cons_of_neg (by rw [hcheck]; nofun)]; rfl
  | number hcheck hkey =>
    rw [List.filter_cons_of_pos (by rw [hcheck]; rfl)]; rfl

theorem Call.Gets.count_eq (hgets : call.Gets settings after outcome)
    (counters : Counters) :
    counters.count outcome =
      counters.count ((call.check settings).mapError Fault.labels) := by
  cases hgets with
  | refusal hcheck => rw [hcheck]; rfl
  | number hcheck hkey => rw [hcheck]; rfl

end Gets

/-- Calls are counted alike in any order. -/
instance : RightCommutative (Call.tally settings) where
  right_comm counters first second := by
    simp only [Call.tally]
    cases first.isCounted <;> cases second.isCounted <;>
      cases first.check settings <;> cases second.check settings <;> rfl

/-! ## Runs of calls -/

section Runs

variable {start : Store} {seen : List LabelSet}

/-- If there is room for all that arrive, a call gets what its labels deserve,
whatever came before. -/
theorem gets_perform (hcontinues : start.Continues seen index.store)
    (hroom : start.Accommodates (seen ++ arriving index.settings [call])) :
    call.Gets index.settings (index.perform call).2.store
      (index.perform call).1 := by
  have hperforms := index.performs call
  generalize index.perform call = result at *
  cases hperforms with
  | refused hcheck hstore => exact .refusal hcheck
  | @reached labels after hcheck hstore =>
      have harriving : arriving index.settings [call] = [labels] := by
        rw [arriving, List.filterMap_cons_some (by rw [hcheck]; rfl)]
        rfl
      rw [harriving] at hroom
      obtain ⟨registration, hok⟩ :=
        hcontinues.exists_registration hroom call.timestamp
      rw [hok]
      refine .number hcheck ?_
      rw [hstore]
      exact (hcontinues.settled.register_eq_ok hok).1

theorem arriving_cons (call : Call) (rest : List Call) :
    arriving settings (call :: rest) =
      arriving settings [call] ++ arriving settings rest :=
  List.filterMap_append (l := [call])

/-- What holds of the first of some calls and of the others after it. -/
theorem accommodates_cons (hcontinues : start.Continues seen index.store)
    {rest : List Call}
    (hroom : start.Accommodates
      (seen ++ arriving index.settings (call :: rest))) :
    call.Gets index.settings (index.perform call).2.store
        (index.perform call).1 ∧
      start.Continues (seen ++ arriving index.settings [call])
        (index.perform call).2.store ∧
      start.Accommodates (seen ++ arriving index.settings [call] ++
        arriving (index.perform call).2.settings rest) := by
  rw [arriving_cons, ← List.append_assoc] at hroom
  have hgets :=
    gets_perform hcontinues (hroom.of_begins (List.prefix_append _ _))
  have hnext := continues_perform hcontinues call
  rw [hgets.labelSets_eq] at hnext
  rw [settings_perform]
  exact ⟨hgets, hnext, hroom⟩

theorem gets_performAll (hcontinues : start.Continues seen index.store)
    (hroom : start.Accommodates (seen ++ arriving index.settings calls))
    {outcome : Except Fault Store.Registration}
    (hmem : (call, outcome) ∈ index.transcript calls) :
    call.Gets index.settings (index.performAll calls).store outcome := by
  induction calls generalizing index seen with
  | nil => cases hmem
  | cons first rest ih =>
      obtain ⟨hgets, hnext, hlater⟩ := accommodates_cons hcontinues hroom
      rw [transcript] at hmem
      rcases List.mem_cons.mp hmem with hfirst | hrest
      · cases hfirst
        exact hgets.grows (grows_performAll hnext rest)
      · have hrun := ih hnext hlater hrest
        rw [settings_perform] at hrun
        exact hrun

/-- The accepted calls are those that pass their check. -/
theorem map_fst_accepted (hcontinues : start.Continues seen index.store)
    (hroom : start.Accommodates (seen ++ arriving index.settings calls)) :
    (index.accepted calls).map Prod.fst =
      calls.filter fun call => (call.check index.settings).isOk := by
  induction calls generalizing index seen with
  | nil => rfl
  | cons first rest ih =>
      obtain ⟨hgets, hnext, hlater⟩ := accommodates_cons hcontinues hroom
      have hrun := ih hnext hlater
      rw [settings_perform] at hrun
      rw [accepted, List.map_append, hgets.calls_eq, hrun,
        ← List.filter_append]
      rfl

/-- The counts after some calls depend on the checks of these calls alone. -/
theorem counters_performAll (hcontinues : start.Continues seen index.store)
    (hroom : start.Accommodates (seen ++ arriving index.settings calls)) :
    (index.performAll calls).counters =
      calls.foldl (Call.tally index.settings) index.counters := by
  induction calls generalizing index seen with
  | nil => rfl
  | cons first rest ih =>
      obtain ⟨hgets, hnext, hlater⟩ := accommodates_cons hcontinues hroom
      have hrun := ih hnext hlater
      rw [settings_perform, counters_perform, hgets.count_eq] at hrun
      exact hrun

theorem continues_arriving (hcontinues : start.Continues seen index.store)
    (hroom : start.Accommodates (seen ++ arriving index.settings calls)) :
    start.Continues (seen ++ arriving index.settings calls)
      (index.performAll calls).store := by
  induction calls generalizing index seen with
  | nil => exact (List.append_nil seen).symm ▸ hcontinues
  | cons first rest ih =>
      obtain ⟨hgets, hnext, hlater⟩ := accommodates_cons hcontinues hroom
      have hrun := ih hnext hlater
      rw [settings_perform, List.append_assoc, ← arriving_cons] at hrun
      exact hrun

end Runs

theorem settings_performAll (index : Index) (calls : List Call) :
    (index.performAll calls).settings = index.settings := by
  induction calls generalizing index with
  | nil => rfl
  | cons first rest ih => exact (ih _).trans (settings_perform index first)

theorem Accommodates.store (hroom : index.Accommodates calls)
    (hregular : index.Regular) :
    index.store.Accommodates (arriving index.settings calls) := by
  refine ⟨?_, hroom.numbers⟩
  rw [hregular.limit_eq]
  exact hroom.room

/-- There is room in any order, if there is in one. -/
theorem Accommodates.of_perm (hroom : index.Accommodates calls)
    (hperm : calls.Perm others) : index.Accommodates others := by
  have hsame := (index.store.newcomers_perm (hperm.filterMap fun call =>
    (call.check index.settings).toOption)).length_eq
  have hplaces := hroom.room
  have hnumbers := hroom.numbers
  rw [arriving, hsame] at hplaces hnumbers
  exact ⟨hplaces, hnumbers⟩

/-! ## Two orders -/

theorem mem_timestamps_iff_exists_call
    {entries : List (Call × Store.Registration)} {labels : LabelSet}
    {timestamp : Timestamp} :
    timestamp ∈ timestamps entries labels ↔
      ∃ call ∈ entries.map Prod.fst,
        call.labels? = some labels ∧ call.timestamp = timestamp := by
  rw [mem_timestamps]
  simp only [List.mem_map, exists_exists_and_eq_and]

/-- The same calls were accepted, so the same was seen. -/
theorem sightedOver_iff (hregular : index.Regular)
    (hperm : calls.Perm others) (hroom : index.Accommodates calls)
    (labels : LabelSet) (interval : Activity) :
    Store.SightedOver (index.snapshot ++ index.history calls) labels interval ↔
      Store.SightedOver (index.snapshot ++ index.history others) labels
        interval := by
  have hstart := Store.continues_nil hregular.settled
  have hleft := map_fst_accepted hstart (hroom.store hregular)
  have hright := map_fst_accepted hstart
    ((hroom.of_perm hperm).store hregular)
  have hmem (call : Call) :
      call ∈ (index.accepted calls).map Prod.fst ↔
        call ∈ (index.accepted others).map Prod.fst := by
    rw [hleft, hright]
    exact (hperm.filter _).mem_iff
  simp only [Store.sightedOver_append, sightedOver_history_iff,
    mem_timestamps_iff_exists_call, hmem]

theorem remembers_performAll_snapshot (hregular : index.Regular)
    (calls : List Call) :
    (index.performAll calls).Remembers
      (index.snapshot ++ index.history calls) :=
  Remembers.performAll
    ⟨hregular.settled, hregular.settled.recorded_snapshot⟩ calls

/-- In another order the same calls lead to a store that is alike. -/
theorem alike_performAll (hregular : index.Regular)
    (hperm : calls.Perm others) (hroom : index.Accommodates calls) :
    (index.performAll calls).store.Alike (index.performAll others).store := by
  have hstart := Store.continues_nil hregular.settled
  have hleft := continues_arriving hstart (hroom.store hregular)
  have hright := continues_arriving hstart
    ((hroom.of_perm hperm).store hregular)
  have harriving : (arriving index.settings calls).Perm
      (arriving index.settings others) := hperm.filterMap _
  constructor
  case settled_left => exact hleft.settled
  case settled_right => exact hright.settled
  case published_iff =>
    intro tsid
    have hsame := (index.store.newcomers_perm harriving).length_eq
    have hnext : (index.performAll calls).store.catalog.nextTsid =
        (index.performAll others).store.catalog.nextTsid := by
      apply UInt64.toNat_inj.mp
      rw [hleft.nextTsid_eq, hright.nextTsid_eq, List.nil_append,
        List.nil_append, hsame]
    rw [hleft.mem_published_iff hregular.settled,
      hright.mem_published_iff hregular.settled, hnext]
  case registered_iff =>
    intro labels
    rw [hleft.settled.mem_registered, hright.settled.mem_registered,
      hleft.exists_lookup?_iff, hright.exists_lookup?_iff, List.nil_append,
      List.nil_append, harriving.mem_iff]
  case activity_eq =>
    intro tsid other series found hseries hfound hlabels
    have hhull :=
      (remembers_performAll_snapshot hregular calls).recorded.isHull
        hleft.settled.toConsistent hseries
    have hotherHull :=
      (remembers_performAll_snapshot hregular others).recorded.isHull
        hright.settled.toConsistent hfound
    have hsame : Store.SightedOver (index.snapshot ++ index.history calls)
        series.labels = Store.SightedOver
          (index.snapshot ++ index.history others) found.labels := by
      rw [← hlabels]
      funext interval
      exact propext (sightedOver_iff hregular hperm hroom _ _)
    rw [hsame] at hhull
    exact hhull.unique hotherHull

/-- Two outcomes are the same fault, or give numbers that correspond. -/
inductive SameOutcome (renumbering : Tsid → Tsid) :
    Except Fault Store.Registration → Except Fault Store.Registration →
      Prop where
  | rejected {fault : Fault} :
      SameOutcome renumbering (.error fault) (.error fault)
  | accepted {left right : Store.Registration}
      (htsid : right.tsid = renumbering left.tsid) :
      SameOutcome renumbering (.ok left) (.ok right)

/-- One index tells of each number what another one tells of the number that it
is taken to, and tells the same of everything else. -/
structure Renumbers (renumbering : Equiv.Perm Tsid) (left right : Index) :
    Prop where
  published_eq :
    right.store.catalog.published = left.store.catalog.published
  labels_eq : ∀ tsid, right.labels (renumbering tsid) = left.labels tsid
  activity_eq : ∀ tsid,
    right.activity (renumbering tsid) = left.activity tsid
  lookup?_eq : ∀ labels,
    right.lookup? labels = (left.lookup? labels).map renumbering
  labelNames_eq : right.labelNames = left.labelNames
  labelValues_eq : ∀ name, right.labelValues name = left.labelValues name
  stats_eq : right.stats = left.stats
  resolve_iff : ∀ matchers window, ∃ answers images,
    (left.resolveWindow matchers window).1 = .ok answers ∧
      (right.resolveWindow matchers window).1 = .ok images ∧
      ∀ tsid, tsid ∈ images ↔ ∃ other ∈ answers, renumbering other = tsid

/-- Indexes with stores that are alike differ by a renumbering. -/
theorem renumbers_of_alike {left right : Index}
    (halike : left.store.Alike right.store)
    (hcounters : right.counters = left.counters)
    (hsettings : right.settings = left.settings) :
    Renumbers halike.renumbering left right where
  published_eq :=
    Std.ExtTreeSet.ext_mem fun {tsid} => (halike.published_iff tsid).symm
  labels_eq tsid := by
    rw [Index.labels, Index.labels, halike.publishedSeries_renumbering]
    cases left.store.catalog.publishedSeries tsid <;> rfl
  activity_eq tsid := by
    rw [Index.activity, Index.activity, halike.publishedSeries_renumbering]
    cases left.store.catalog.publishedSeries tsid <;> rfl
  lookup?_eq := halike.lookup?_eq
  labelNames_eq := halike.labelNames_eq
  labelValues_eq := halike.values_eq
  stats_eq := by
    rw [Index.stats, Index.stats, halike.seriesCount_eq, halike.nameCount_eq,
      halike.pairCount_eq, hcounters, hsettings]
  resolve_iff matchers window :=
    ⟨_, _, halike.settled_left.resolve_eq matchers window,
      halike.settled_right.resolve_eq matchers window,
      halike.mem_answers_iff matchers window⟩

/-- The same calls in another order lead to an index that differs in nothing
but the numbers of new label sets. -/
theorem performAll_renumbers (hreach : index.Reachable)
    (hperm : calls.Perm others) (hroom : index.Accommodates calls) :
    ∃ renumbering : Equiv.Perm Tsid,
      (∀ tsid ∈ index.store.catalog.published, renumbering tsid = tsid) ∧
      Renumbers renumbering (index.performAll calls)
        (index.performAll others) ∧
      ∀ call outcome other, (call, outcome) ∈ index.transcript calls →
        (call, other) ∈ index.transcript others →
          SameOutcome renumbering outcome other := by
  have hregular := hreach.regular
  have hstart := Store.continues_nil hregular.settled
  have hleftRoom := hroom.store hregular
  have hrightRoom := (hroom.of_perm hperm).store hregular
  have halike := alike_performAll hregular hperm hroom
  have hcounters : (index.performAll others).counters =
      (index.performAll calls).counters := by
    rw [counters_performAll hstart hleftRoom,
      counters_performAll hstart hrightRoom]
    exact (hperm.foldl_eq _).symm
  have hsettings : (index.performAll others).settings =
      (index.performAll calls).settings := by
    rw [settings_performAll, settings_performAll]
  refine ⟨halike.renumbering, ?_,
    renumbers_of_alike halike hcounters hsettings, ?_⟩
  · intro tsid hpublished
    obtain ⟨series, hseries⟩ := hregular.settled.mem_published_iff.mp hpublished
    obtain ⟨found, hfound, hlabels, -⟩ :=
      (grows_performAll hstart calls).series tsid series hseries
    have hkey := (grows_performAll hstart others).key _ _
      (hregular.settled.keyed tsid series hseries)
    rw [← hlabels] at hkey
    exact Store.renumber_of_lookup? hfound hkey
  · intro call outcome other hmem hother
    have hleft := gets_performAll hstart hleftRoom hmem
    have hright := gets_performAll hstart hrightRoom hother
    cases hleft with
    | refusal hcheck =>
        cases hright with
        | refusal hotherCheck =>
            rw [hcheck] at hotherCheck
            cases hotherCheck
            exact .rejected
        | number hotherCheck hkey =>
            rw [hcheck] at hotherCheck
            cases hotherCheck
    | number hcheck hkey =>
        cases hright with
        | refusal hotherCheck =>
            rw [hcheck] at hotherCheck
            cases hotherCheck
        | number hotherCheck hotherKey =>
            rw [hcheck] at hotherCheck
            cases hotherCheck
            rw [halike.lookup?_eq, hkey] at hotherKey
            exact .accepted (Option.some.inj hotherKey).symm

/-- Calls after which an index is full, and the same calls backwards. -/
theorem performAll_renumbers_backwards :
    let index := (empty { seriesLimit := 3 }).performAll
      [.register 5 (deployment "prod" "api")]
    let calls : List Call :=
      [.register 3 (deployment "dev" "api"), .registerHost 6 [("", "web")],
        .register 12 (deployment "prod" "api"),
        .registerPairs 4 [("job", "web")]]
    index.Reachable ∧ calls.Perm calls.reverse ∧ index.Accommodates calls ∧
      ∃ renumbering : Equiv.Perm Tsid,
        (∀ tsid ∈ index.store.catalog.published, renumbering tsid = tsid) ∧
        Renumbers renumbering (index.performAll calls)
          (index.performAll calls.reverse) ∧
        ∀ call outcome other, (call, outcome) ∈ index.transcript calls →
          (call, other) ∈ index.transcript calls.reverse →
            SameOutcome renumbering outcome other := by
  intro index calls
  have hreach : index.Reachable := (Reachable.built build_three).performAll _
  have hperm : calls.Perm calls.reverse := (List.reverse_perm calls).symm
  have hroom : index.Accommodates calls := by
    constructor
    case room => exact .inr (by decide +kernel)
    case numbers => decide +kernel
  exact ⟨hreach, hperm, hroom, performAll_renumbers hreach hperm hroom⟩

end Index

end SeriesIndex
