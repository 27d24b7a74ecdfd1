import Mathlib
import SeriesIndex.Proofs.Index.Outcomes

/-!
# Registrations in the counters

Every request to register is answered as accepted or refused, and the counters
of an index tell how many were accepted and how many were refused, whatever else
the index was asked for in between.  There is one exception.  Pairs of a host
that make no label set are refused before they reach the index: the answer and
the store are those of pairs that are registered directly, but the refusal is
not counted.
-/

namespace SeriesIndex.Index

def Answer.isAccepted : Answer → Bool
  | .registration (.ok _) => true
  | _ => false

def Answer.isRejected : Answer → Bool
  | .registration (.error _) => true
  | _ => false

def Request.registers : Request → Bool
  | .call _ => true
  | _ => false

def Request.isStopped : Request → Bool
  | .call made => !made.isCounted
  | _ => false

/-- In a session each registration that is accepted is counted, and each one
that is refused, unless it is stopped. -/
structure Accounts (index : Index) (requests : List Request) : Prop where
  registrations : (index.after requests).counters.registrations =
    index.counters.registrations +
      (index.answers requests).countP Answer.isAccepted
  rejected : (index.after requests).counters.rejected +
      requests.countP Request.isStopped =
    index.counters.rejected +
      (index.answers requests).countP Answer.isRejected
  attempts : (index.answers requests).countP Answer.isAccepted +
      (index.answers requests).countP Answer.isRejected =
    requests.countP Request.registers

variable {index : Index} {request : Request}

/-! ## Single requests -/

/-- What is stopped is refused. -/
theorem perform_of_not_isCounted (index : Index) {call : Call}
    (hcall : call.isCounted = false) :
    ∃ fault, (index.perform call).1 = .error fault := by
  cases call with
  | register timestamp labels => cases hcall
  | registerPairs timestamp pairs => cases hcall
  | registerHost timestamp pairs =>
      rw [Call.isCounted] at hcall
      rw [perform, registerHost]
      cases hpairs : LabelSet.ofPairs pairs with
      | ok labels =>
          rw [hpairs] at hcall
          cases hcall
      | error cause => exact ⟨.labels cause, rfl⟩

/-- A call is accounted for, whichever way it registers. -/
theorem accounts_call (index : Index) (call : Call) :
    index.Accounts [.call call] := by
  have hcounters := index.counters_perform call
  have hafter : index.after [.call call] = (index.perform call).2 := rfl
  have hanswers : index.answers [.call call] =
      [.registration (index.perform call).1] := rfl
  cases hcounted : call.isCounted with
  | true =>
      have hstopped : [Request.call call].countP Request.isStopped = 0 := by
        simp [Request.isStopped, hcounted]
      rw [hcounted, if_pos rfl] at hcounters
      constructor
      · rw [hafter, hanswers, hcounters]
        cases (index.perform call).1 <;> rfl
      · rw [hafter, hanswers, hcounters, hstopped]
        cases (index.perform call).1 <;> rfl
      · rw [hanswers]
        cases (index.perform call).1 <;> rfl
  | false =>
      have hstopped : [Request.call call].countP Request.isStopped = 1 := by
        simp [Request.isStopped, hcounted]
      obtain ⟨fault, herror⟩ := index.perform_of_not_isCounted hcounted
      rw [hcounted, if_neg Bool.false_ne_true] at hcounters
      constructor
      · rw [hafter, hanswers, hcounters, herror]
        rfl
      · rw [hafter, hanswers, hcounters, herror, hstopped]
        rfl
      · rw [hanswers, herror]
        rfl

/-- What is only asked is no registration, and is not counted as one. -/
theorem counters_of_not_registers (index : Index)
    (hrequest : request.registers = false) :
    (index.answer request).2.counters.registrations =
        index.counters.registrations ∧
      (index.answer request).2.counters.rejected = index.counters.rejected := by
  have hresolve (matchers : List Matcher) (start stop : Timestamp) :
      (index.resolve matchers start stop).2.counters.registrations =
          index.counters.registrations ∧
        (index.resolve matchers start stop).2.counters.rejected =
          index.counters.rejected := by
    rw [resolve]
    cases Window.ofBounds start stop <;> exact ⟨rfl, rfl⟩
  cases request with
  | call call => cases hrequest
  | resolve matchers start stop => exact hresolve matchers start stop
  | resolveWithLabels matchers start stop =>
      rw [answer, resolveWithLabels]
      cases Window.ofBounds start stop <;> exact ⟨rfl, rfl⟩
  | resolveHost limits hosts start stop =>
      rw [answer, resolveHost]
      cases HostMatcher.toMatchers limits hosts with
      | error fault => exact ⟨rfl, rfl⟩
      | ok matchers => exact hresolve matchers start stop
  | _ => exact ⟨rfl, rfl⟩

theorem answer_of_not_registers (index : Index)
    (hrequest : request.registers = false) :
    (index.answer request).1.isAccepted = false ∧
      (index.answer request).1.isRejected = false ∧
      request.isStopped = false := by
  cases request with
  | call call => cases hrequest
  | _ => exact ⟨rfl, rfl, rfl⟩

/-- Whoever does not register is not counted. -/
theorem accounts_of_not_registers (index : Index)
    (hrequest : request.registers = false) : index.Accounts [request] := by
  have hafter : index.after [request] = (index.answer request).2 := rfl
  have hanswers : index.answers [request] = [(index.answer request).1] := rfl
  obtain ⟨hregistrations, hrejected⟩ :=
    index.counters_of_not_registers hrequest
  obtain ⟨haccepts, hrejects, hstopped⟩ :=
    index.answer_of_not_registers hrequest
  constructor
  · simp [hafter, hanswers, hregistrations, haccepts]
  · simp [hafter, hanswers, hrejected, hrejects, hstopped]
  · simp [hanswers, haccepts, hrejects, hrequest]

theorem accounts_single (index : Index) (request : Request) :
    index.Accounts [request] := by
  cases hrequest : request.registers with
  | false => exact index.accounts_of_not_registers hrequest
  | true =>
      cases request with
      | call call => exact index.accounts_call call
      | _ => cases hrequest

/-! ## Sessions -/

/-- A session is accounted for if its first request is, and the rest of it. -/
theorem Accounts.cons {rest : List Request}
    (hfirst : index.Accounts [request])
    (hrest : (index.answer request).2.Accounts rest) :
    index.Accounts (request :: rest) := by
  have hafter : index.after (request :: rest) =
      (index.after [request]).after rest := rfl
  have hanswers : index.answers (request :: rest) =
      index.answers [request] ++ (index.after [request]).answers rest := rfl
  have hrequests : request :: rest = [request] ++ rest := rfl
  have hlater : (index.after [request]).Accounts rest := hrest
  constructor
  · rw [hafter, hanswers, hlater.registrations, hfirst.registrations,
      List.countP_append, Nat.add_assoc]
  · have hone := hfirst.rejected
    have hothers := hlater.rejected
    rw [hafter, hanswers, hrequests, List.countP_append, List.countP_append]
    omega
  · rw [hanswers, hrequests, List.countP_append, List.countP_append,
      List.countP_append, ← hfirst.attempts, ← hlater.attempts]
    omega

/-- Sessions are accounted for request by request. -/
theorem accounts (index : Index) (requests : List Request) :
    index.Accounts requests := by
  induction requests generalizing index with
  | nil => exact ⟨rfl, rfl, rfl⟩
  | cons request rest ih =>
      exact (index.accounts_single request).cons (ih (index.answer request).2)

/-- An index that comes to be has counted nothing. -/
theorem Origin.counters_eq {origin : Origin}
    (hbuild : origin.build = .ok index) : index.counters = {} := by
  cases origin with
  | ofSettings settings =>
      rw [eq_empty_of_ofSettings hbuild]
      rfl
  | inMemory =>
      cases hbuild
      rfl
  | restore settings entries =>
      obtain ⟨-, -, -, rfl⟩ := restore_eq_ok_iff.mp hbuild
      rfl

/-! ## Pairs of a host -/

theorem registerHost_of_isOk (index : Index) (timestamp : Timestamp)
    {pairs : List (String × String)}
    (hpairs : (LabelSet.ofPairs pairs).isOk = true) :
    index.registerHost timestamp pairs =
      index.registerPairs timestamp pairs := by
  rw [registerHost, registerPairs]
  cases hmade : LabelSet.ofPairs pairs with
  | ok labels => rfl
  | error cause =>
      rw [hmade] at hpairs
      cases hpairs

/-- Pairs that make no label set are refused alike, but counted only if they are
registered directly. -/
theorem register_of_error (index : Index) (timestamp : Timestamp)
    {pairs : List (String × String)} {cause : LabelFault}
    (hpairs : LabelSet.ofPairs pairs = .error cause) :
    index.registerHost timestamp pairs = (.error (.labels cause), index) ∧
      index.registerPairs timestamp pairs =
        (.error (.labels cause),
          { index with
            counters :=
              { index.counters with
                rejected := index.counters.rejected + 1 } }) := by
  rw [registerHost, registerPairs, hpairs]
  exact ⟨rfl, rfl⟩

/-- After any session with an index, the statistics tell how many registrations
were accepted.  They also tell how many were refused, except for the pairs of a
host that make no label set; accepted and refused together are all that were
asked for, and nothing else changes either counter.  Pairs of a host are
registered as pairs are, with this exception, and are answered alike in any
case. -/
theorem session_accounts {origin : Origin} (hbuild : origin.build = .ok index)
    (requests : List Request) :
    (index.after requests).stats.counters.registrations =
      (index.answers requests).countP Answer.isAccepted ∧
    (index.after requests).stats.counters.rejected +
        requests.countP Request.isStopped =
      (index.answers requests).countP Answer.isRejected ∧
    (index.answers requests).countP Answer.isAccepted +
        (index.answers requests).countP Answer.isRejected =
      requests.countP Request.registers ∧
    (∀ request : Request, request.registers = false →
      ((index.after requests).answer request).2.stats.counters.registrations =
          (index.after requests).stats.counters.registrations ∧
        ((index.after requests).answer request).2.stats.counters.rejected =
          (index.after requests).stats.counters.rejected) ∧
    (∀ timestamp pairs, (LabelSet.ofPairs pairs).isOk = true →
      (index.after requests).registerHost timestamp pairs =
        (index.after requests).registerPairs timestamp pairs) ∧
    (∀ timestamp pairs cause, LabelSet.ofPairs pairs = .error cause →
      (index.after requests).registerHost timestamp pairs =
        (.error (.labels cause), index.after requests) ∧
      (index.after requests).registerPairs timestamp pairs =
        (.error (.labels cause),
          { index.after requests with
            counters :=
              { (index.after requests).counters with
                rejected :=
                  (index.after requests).counters.rejected + 1 } })) := by
  have haccounts := index.accounts requests
  have hnone := Origin.counters_eq hbuild
  have hregistrations := haccounts.registrations
  have hrejected := haccounts.rejected
  rw [hnone, Nat.zero_add] at hregistrations hrejected
  refine ⟨hregistrations, hrejected, haccounts.attempts, ?_, ?_, ?_⟩
  · exact fun request => (index.after requests).counters_of_not_registers
  · exact fun timestamp pairs =>
      (index.after requests).registerHost_of_isOk timestamp
  · exact fun timestamp pairs cause =>
      (index.after requests).register_of_error timestamp

/-- One accepted registration, and two with a name that is empty. -/
def attempts : List Request :=
  [.call (.registerPairs 100 [("a", "1")]), .stats,
    .call (.registerPairs 200 [("", "x")]),
    .call (.registerHost 300 [("", "x")])]

theorem session_accounts_attempts :
    Origin.inMemory.build = .ok inMemory ∧
      (inMemory.after attempts).stats.counters.registrations =
        (inMemory.answers attempts).countP Answer.isAccepted ∧
      (inMemory.after attempts).stats.counters.rejected +
          attempts.countP Request.isStopped =
        (inMemory.answers attempts).countP Answer.isRejected ∧
      (inMemory.answers attempts).countP Answer.isAccepted +
          (inMemory.answers attempts).countP Answer.isRejected =
        attempts.countP Request.registers :=
  have hbuild : Origin.inMemory.build = .ok inMemory := rfl
  have haccounts := session_accounts hbuild attempts
  ⟨hbuild, haccounts.1, haccounts.2.1, haccounts.2.2.1⟩

/-- A host is refused a label without a name, and the refusal is not counted;
that of the same pairs registered directly is. -/
theorem registerHost_refused_uncounted :
    (inMemory.registerHost 100 [("", "x")]).1 = .error (.labels .emptyName) ∧
      (inMemory.registerHost 100 [("", "x")]).2.stats.counters.rejected = 0 ∧
      (inMemory.registerPairs 100 [("", "x")]).1 =
        .error (.labels .emptyName) ∧
      (inMemory.registerPairs 100 [("", "x")]).2.stats.counters.rejected = 1 :=
  by decide +kernel

end SeriesIndex.Index
