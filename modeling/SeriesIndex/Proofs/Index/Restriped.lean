import SeriesIndex.Proofs.Index.Sessions
import SeriesIndex.Proofs.Store.Sessions

/-!
# Indexes in different numbers of stripes

Settings that differ in the numbers of stripes alone lead to the same index, as
far as one can see: an index is refused under both or built under both, and
whatever is then asked of it or of its store has the same answer, except that
the settings are told as they were given.
-/

namespace SeriesIndex

def Settings.restriped (settings : Settings) (keys names : Nat) : Settings :=
  { settings with keyStripes := keys, nameStripes := names }

namespace Index

/-! ## Sessions with an index and its store -/

/-- The answer to a request to an index or to its store, and the index after
it. -/
def serve (index : Index) :
    Request ⊕ Store.Request → (Answer ⊕ Store.Answer) × Index
  | .inl request =>
    (.inl (index.answer request).1, (index.answer request).2)
  | .inr request =>
    (.inr (index.store.answer request).1,
      { index with store := (index.store.answer request).2 })

def served (index : Index) :
    List (Request ⊕ Store.Request) → List (Answer ⊕ Store.Answer)
  | [] => []
  | request :: rest =>
    (index.serve request).1 :: (index.serve request).2.served rest

def Answer.restriped (answer : Answer) (keys names : Nat) : Answer :=
  match answer with
  | .settings given => .settings (given.restriped keys names)
  | answer => answer

def Origin.settings : Origin → Settings
  | ofSettings settings => settings
  | inMemory => {}
  | restore settings _ => settings

def Origin.restriped (origin : Origin) (keys names : Nat) : Origin :=
  match origin with
  | ofSettings settings => ofSettings (settings.restriped keys names)
  | inMemory => ofSettings (Settings.restriped {} keys names)
  | restore settings entries =>
    restore (settings.restriped keys names) entries

/-! ## Requests -/

/-- The left index is the right one in other numbers of stripes. -/
structure Restriped (left right : Index) (keys names : Nat) : Prop where
  settings_eq : left.settings = right.settings.restriped keys names
  store : left.store.Restriped right.store
  counters_eq : left.counters = right.counters

namespace Restriped

variable {left right : Index} {keys names : Nat}

/-- A registration has the same outcome in both indexes. -/
theorem register (hrestriped : left.Restriped right keys names)
    (timestamp : Timestamp) (labels : LabelSet) :
    (left.register timestamp labels).1 = (right.register timestamp labels).1 ∧
      (left.register timestamp labels).2.Restriped
        (right.register timestamp labels).2 keys names := by
  obtain ⟨hsettings, hstore, hcounters⟩ := hrestriped
  have hcheck : left.settings.checkLabels labels =
      right.settings.checkLabels labels := by
    rw [hsettings]
    rfl
  rw [Index.register, Index.register, hcheck, hcounters]
  cases right.settings.checkLabels labels with
  | error cause => exact ⟨rfl, hsettings, hstore, rfl⟩
  | ok value =>
      have houtcome := (hstore.register_eq timestamp labels).1
      refine ⟨houtcome, hsettings, hstore.register timestamp labels, ?_⟩
      exact congrArg right.counters.count houtcome

/-- A call has the same outcome with both indexes, and leaves them restriped. -/
theorem perform (hrestriped : left.Restriped right keys names) (call : Call) :
    (left.perform call).1 = (right.perform call).1 ∧
      (left.perform call).2.Restriped (right.perform call).2 keys names := by
  cases call with
  | register timestamp labels => exact hrestriped.register timestamp labels
  | registerPairs timestamp pairs =>
      simp only [Index.perform, registerPairs, hrestriped.counters_eq]
      cases LabelSet.ofPairs pairs with
      | ok labels => exact hrestriped.register timestamp labels
      | error cause =>
          exact ⟨rfl, hrestriped.settings_eq, hrestriped.store, rfl⟩
  | registerHost timestamp pairs =>
      simp only [Index.perform, registerHost]
      cases LabelSet.ofPairs pairs with
      | ok labels => exact hrestriped.register timestamp labels
      | error cause => exact ⟨rfl, hrestriped⟩

theorem countResolve (hrestriped : left.Restriped right keys names) :
    left.countResolve.Restriped right.countResolve keys names := by
  obtain ⟨hsettings, hstore, hcounters⟩ := hrestriped
  refine ⟨hsettings, hstore, ?_⟩
  rw [Index.countResolve, Index.countResolve, hcounters]

/-- A query has the same answer with both indexes, and leaves them restriped. -/
theorem resolve (hrestriped : left.Restriped right keys names)
    (matchers : List Matcher) (start stop : Timestamp) :
    (left.resolve matchers start stop).1 =
        (right.resolve matchers start stop).1 ∧
      (left.resolve matchers start stop).2.Restriped
        (right.resolve matchers start stop).2 keys names := by
  simp only [Index.resolve, resolveWindow, hrestriped.store.resolve_eq]
  cases Window.ofBounds start stop with
  | error fault => exact ⟨rfl, hrestriped⟩
  | ok window => exact ⟨rfl, hrestriped.countResolve⟩

theorem resolveWithLabels (hrestriped : left.Restriped right keys names)
    (matchers : List Matcher) (start stop : Timestamp) :
    (left.resolveWithLabels matchers start stop).1 =
        (right.resolveWithLabels matchers start stop).1 ∧
      (left.resolveWithLabels matchers start stop).2.Restriped
        (right.resolveWithLabels matchers start stop).2 keys names := by
  simp only [Index.resolveWithLabels, hrestriped.store.resolveSeries_eq]
  cases Window.ofBounds start stop with
  | error fault => exact ⟨rfl, hrestriped⟩
  | ok window => exact ⟨rfl, hrestriped.countResolve⟩

theorem resolveHost (hrestriped : left.Restriped right keys names)
    (limits : Pattern.Limits) (hosts : List HostMatcher)
    (start stop : Timestamp) :
    (left.resolveHost limits hosts start stop).1 =
        (right.resolveHost limits hosts start stop).1 ∧
      (left.resolveHost limits hosts start stop).2.Restriped
        (right.resolveHost limits hosts start stop).2 keys names := by
  simp only [Index.resolveHost]
  cases HostMatcher.toMatchers limits hosts with
  | error fault => exact ⟨rfl, hrestriped⟩
  | ok matchers => exact hrestriped.resolve matchers start stop

theorem stats_eq (hrestriped : left.Restriped right keys names) :
    left.stats = right.stats := by
  obtain ⟨hsettings, hstore, hcounters⟩ := hrestriped
  have hsame := hstore.sameTriples
  rw [stats, stats, hstore.seriesCount_eq, hsame.nameCount_eq,
    hsame.pairCount_eq, hcounters, hsettings]
  rfl

/-- Whatever is asked, the answers are the same up to the settings. -/
theorem answer_eq (hrestriped : left.Restriped right keys names)
    (request : Request) :
    (left.answer request).1 =
      (right.answer request).1.restriped keys names := by
  have hsettings := hrestriped.settings_eq
  have hstore := hrestriped.store
  have hsame := hstore.sameTriples
  cases request with
  | call call => exact congrArg Answer.registration (hrestriped.perform call).1
  | labels tsid =>
      rw [Index.answer, Index.labels, hstore.publishedSeries_eq]
      rfl
  | hostLabels tsid =>
      rw [Index.answer, hostLabels, Index.labels, hstore.publishedSeries_eq]
      rfl
  | lookup labels =>
      rw [Index.answer, lookup?, hstore.lookup?_eq]
      rfl
  | activity tsid =>
      rw [Index.answer, Index.activity, hstore.publishedSeries_eq]
      rfl
  | labelValues name =>
      rw [Index.answer, Index.labelValues, hsame.values_eq]
      rfl
  | labelNames =>
      rw [Index.answer, Index.labelNames, hsame.labelNames_eq]
      rfl
  | seriesCount =>
      rw [Index.answer, Index.seriesCount, hstore.seriesCount_eq]
      rfl
  | settings => exact congrArg Answer.settings hsettings
  | matcher op name value =>
      rw [Index.answer, Index.matcher, hsettings]
      rfl
  | resolve matchers start stop =>
      exact congrArg Answer.numbers (hrestriped.resolve matchers start stop).1
  | resolveWindow matchers window =>
      rw [Index.answer, Index.resolveWindow, hstore.resolve_eq]
      rfl
  | resolveWithLabels matchers start stop =>
      exact congrArg Answer.labelled
        (hrestriped.resolveWithLabels matchers start stop).1
  | resolveHost limits hosts start stop =>
      exact congrArg Answer.numbers
        (hrestriped.resolveHost limits hosts start stop).1
  | snapshot =>
      rw [Index.answer, Index.snapshot, hstore.snapshot_eq]
      rfl
  | stats => exact congrArg Answer.stats hrestriped.stats_eq

/-- Whatever is asked, the indexes stay restriped. -/
theorem answer (hrestriped : left.Restriped right keys names)
    (request : Request) :
    (left.answer request).2.Restriped (right.answer request).2 keys names := by
  cases request with
  | call call => exact (hrestriped.perform call).2
  | resolve matchers start stop =>
      exact (hrestriped.resolve matchers start stop).2
  | resolveWindow matchers window => exact hrestriped.countResolve
  | resolveWithLabels matchers start stop =>
      exact (hrestriped.resolveWithLabels matchers start stop).2
  | resolveHost limits hosts start stop =>
      exact (hrestriped.resolveHost limits hosts start stop).2
  | _ => exact hrestriped

theorem serve_eq (hrestriped : left.Restriped right keys names)
    (request : Request ⊕ Store.Request) :
    (left.serve request).1 =
      Sum.map (Answer.restriped · keys names) id (right.serve request).1 := by
  cases request with
  | inl request => exact congrArg Sum.inl (hrestriped.answer_eq request)
  | inr request => exact congrArg Sum.inr (hrestriped.store.answer_eq request)

theorem serve (hrestriped : left.Restriped right keys names)
    (request : Request ⊕ Store.Request) :
    (left.serve request).2.Restriped (right.serve request).2 keys names := by
  cases request with
  | inl request => exact hrestriped.answer request
  | inr request =>
      exact ⟨hrestriped.settings_eq, hrestriped.store.answer request,
        hrestriped.counters_eq⟩

/-- A session has the same answers with both indexes, up to the settings. -/
theorem served_eq (hrestriped : left.Restriped right keys names)
    (requests : List (Request ⊕ Store.Request)) :
    left.served requests =
      (right.served requests).map
        (Sum.map (Answer.restriped · keys names) id) := by
  induction requests generalizing left right with
  | nil => rfl
  | cons request rest ih =>
      rw [served, served, List.map_cons, hrestriped.serve_eq request,
        ih (hrestriped.serve request)]

end Restriped

/-! ## Origins -/

theorem restriped_empty (settings : Settings) (keys names : Nat) :
    (empty (settings.restriped keys names)).Restriped (empty settings)
      keys names where
  settings_eq := rfl
  store := Store.restriped_empty _ _ _ _ _
  counters_eq := rfl

/-- An index is refused for the same fault under both settings, or built under
both. -/
theorem restore_restriped {settings : Settings} {keys names : Nat}
    (hvalid : settings.Valid) (hother : (settings.restriped keys names).Valid)
    (entries : List Series) :
    (∃ fault, restore settings entries = .error fault ∧
        restore (settings.restriped keys names) entries = .error fault) ∨
      ∃ left right, restore settings entries = .ok right ∧
        restore (settings.restriped keys names) entries = .ok left ∧
        left.Restriped right keys names := by
  have hbuilt := ofSettings_eq_ok_iff.mpr ⟨hvalid, rfl⟩
  have hotherBuilt := ofSettings_eq_ok_iff.mpr ⟨hother, rfl⟩
  have hentries : checkEntries (settings.restriped keys names) entries =
      checkEntries settings entries := rfl
  have hempty := restriped_empty settings keys names
  have houtcome := (hempty.store.importBatch_eq entries).1
  rw [restore, restore, hbuilt, hotherBuilt]
  simp only [bind, Except.bind, hentries, houtcome]
  cases checkEntries settings entries with
  | error fault => exact .inl ⟨fault, rfl, rfl⟩
  | ok value =>
      cases ((empty settings).store.importBatch entries).1 with
      | error fault => exact .inl ⟨fault, rfl, rfl⟩
      | ok value =>
          exact .inr ⟨_, _, rfl, rfl, hempty.settings_eq,
            hempty.store.importBatch entries, rfl⟩

/-- However an index comes to be, it comes to be restriped under the other
settings. -/
theorem build_restriped {origin : Origin} {keys names : Nat}
    (hvalid : origin.settings.Valid)
    (hother : (origin.settings.restriped keys names).Valid) :
    (∃ fault, origin.build = .error fault ∧
        (origin.restriped keys names).build = .error fault) ∨
      ∃ left right, origin.build = .ok right ∧
        (origin.restriped keys names).build = .ok left ∧
        left.Restriped right keys names := by
  cases origin with
  | ofSettings settings =>
      exact .inr ⟨_, _, ofSettings_eq_ok_iff.mpr ⟨hvalid, rfl⟩,
        ofSettings_eq_ok_iff.mpr ⟨hother, rfl⟩, restriped_empty _ _ _⟩
  | inMemory =>
      exact .inr ⟨_, _, rfl, ofSettings_eq_ok_iff.mpr ⟨hother, rfl⟩,
        restriped_empty _ _ _⟩
  | restore settings entries => exact restore_restriped hvalid hother entries

/-- The numbers of stripes do not show.  Whatever they are, a session with a
store has the same answers; so has a session with an index and its store, or the
index is refused for the same fault, if the settings are valid and differ in
these numbers alone.  Every store of a session keeps each label set in the slot
that its fingerprint chooses, and finds it there whatever the fingerprints of
others are. -/
theorem sessions_restriped :
    (∀ keys names otherKeys otherNames limit requests,
      (Store.empty keys names limit).replies requests =
        (Store.empty otherKeys otherNames limit).replies requests) ∧
    (∀ (origin : Origin) keys names requests, origin.settings.Valid →
      (origin.settings.restriped keys names).Valid →
      ((origin.restriped keys names).build.map fun index =>
          index.served requests) =
        origin.build.map fun index =>
          (index.served requests).map
            (Sum.map (Answer.restriped · keys names) id)) ∧
    ∀ keys names limit requests,
      ((Store.empty keys names limit).after requests).Slotted := by
  refine ⟨?_, ?_, Store.slotted_after⟩
  · intro keys names otherKeys otherNames limit requests
    exact (Store.restriped_empty _ _ _ _ limit).replies_eq requests
  · intro origin keys names requests hvalid hother
    rcases build_restriped hvalid hother with
      ⟨fault, hfault, hotherFault⟩ | ⟨left, right, hright, hleft, hrestriped⟩
    · rw [hfault, hotherFault]
      rfl
    · rw [hright, hleft]
      exact congrArg Except.ok (hrestriped.served_eq requests)

/-- A session with a full index, in which a query, refused and accepted calls
and the figures of the store take turns. -/
theorem sessions_restriped_limited :
    let origin := Origin.ofSettings { seriesLimit := 3 }
    let requests : List (Request ⊕ Store.Request) :=
      deployments.map (fun call => .inl (.call call)) ++
        [.inl (.resolve apiOutsideDev 7 9), .inr .storedBytes,
          .inl (.call (.register 30 (deployment "test" "api"))), .inl .stats,
          .inl (.call (.register 30 (deployment "dev" "api"))),
          .inr .storedBytes, .inl .settings]
    origin.settings.Valid ∧ (origin.settings.restriped 1 4096).Valid ∧
      ((origin.restriped 1 4096).build.map fun index =>
          index.served requests) =
        origin.build.map fun index =>
          (index.served requests).map
            (Sum.map (Answer.restriped · 1 4096) id) := by
  intro origin requests
  have hvalid : origin.settings.Valid :=
    Settings.check_eq_ok_iff.mp (by decide +kernel)
  have hother : (origin.settings.restriped 1 4096).Valid :=
    Settings.check_eq_ok_iff.mp (by decide +kernel)
  exact ⟨hvalid, hother,
    sessions_restriped.2.1 origin 1 4096 requests hvalid hother⟩

end Index

end SeriesIndex
