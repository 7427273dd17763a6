import SwapRelay.Deployment.Inquiry
import SwapRelay.Proofs.AdministrativeRecords
import SwapRelay.Proofs.Registry

/-!
# Answers to queries

Fee records and addresses alike take 32 bytes, whatever is in them, so whoever has asked several
queries at once finds the answers by their positions. A batch of queries is refused for its first
query that is refused alone.
-/

namespace SwapRelay.Deployment

variable {ρ : Type} {deployment : Deployment ρ} {query : Query} {queries : List Query}
  {bytes response : Bytes}

section Width

theorem encodeFeeRecord_eq_ok_iff {record : FeeRecord} :
    encodeFeeRecord record = .ok bytes ↔ Wire.write record = .ok bytes := by
  unfold encodeFeeRecord
  cases Wire.write record <;> simp

theorem length_encodeFeeRecord {record : FeeRecord}
    (encoded : encodeFeeRecord record = .ok bytes) : bytes.length = 32 :=
  record.takes.length_eq bytes (encodeFeeRecord_eq_ok_iff.mp encoded)

theorem length_answer (answered : deployment.answer query = .ok bytes) : bytes.length = 32 := by
  -- Addresses take 32 bytes, those of endpoints and those in the custodian.
  have ofAddress (address : Address) (same : address.toBytes = bytes) : bytes.length = 32 := by
    rw [← same, Word.length_toBytes]
  have ofCustodian (address : Custodian → Address)
      (found : (do return (address (← deployment.requireCustodian)).toBytes) = .ok bytes) :
      bytes.length = 32 := by
    obtain ⟨custodian, -, same⟩ := bind_eq_ok_iff.mp found
    exact ofAddress _ (pure_eq_ok_iff.mp same)
  cases query with
  | feeRecord chain =>
    obtain ⟨record, -, written⟩ := bind_eq_ok_iff.mp answered
    exact length_encodeFeeRecord written
  | endpoint aspect chain =>
    cases aspect with
    | current => exact ofAddress _ (pure_eq_ok_iff.mp answered)
    | _ => cases answered
  | assistant => exact ofCustodian _ answered
  | owner aspect =>
    cases aspect with
    | current => exact ofCustodian _ answered
    | proposed => exact ofCustodian _ answered
    | unlockTime => cases answered
  | feeRecipient aspect =>
    cases aspect with
    | current => exact ofCustodian _ answered
    | _ => cases answered
  | _ => cases answered

end Width

section Batches

theorem answers_cons (query : Query) (later : List Query) :
    deployment.answers (query :: later) = do
      return (← deployment.answer query) ++ (← deployment.answers later) := by
  unfold answers
  rw [List.mapM_cons]
  cases deployment.answer query with
  | error fault => rfl
  | ok first => cases later.mapM deployment.answer <;> rfl

theorem answers_cons_eq_ok_iff {later : List Query} :
    deployment.answers (query :: later) = .ok response ↔
      ∃ first others, deployment.answer query = .ok first ∧ deployment.answers later = .ok others ∧
        response = first ++ others := by
  simp only [answers_cons, bind_eq_ok_iff, pure_eq_ok_iff, exists_and_left, @eq_comm _ _ response]

theorem answers_singleton (query : Query) :
    deployment.answers [query] = deployment.answer query := by
  rw [answers_cons]
  cases deployment.answer query with
  | error fault => rfl
  | ok first => exact congrArg Except.ok (List.append_nil first)

theorem answers_append_eq_ok_iff {former latter : List Query} :
    deployment.answers (former ++ latter) = .ok response ↔
      ∃ first second, deployment.answers former = .ok first ∧
        deployment.answers latter = .ok second ∧ response = first ++ second := by
  induction former generalizing response with
  | nil =>
    constructor
    · intro answered
      exact ⟨[], response, rfl, answered, rfl⟩
    · rintro ⟨_, second, ⟨⟩, answered, rfl⟩
      exact answered
  | cons query later ih =>
    rw [List.cons_append, answers_cons_eq_ok_iff]
    constructor
    · rintro ⟨first, _, alone, joined, rfl⟩
      obtain ⟨rest, second, others, behind, rfl⟩ := ih.mp joined
      exact ⟨first ++ rest, second, answers_cons_eq_ok_iff.mpr ⟨first, rest, alone, others, rfl⟩,
        behind, (List.append_assoc ..).symm⟩
    · rintro ⟨_, second, ahead, behind, rfl⟩
      obtain ⟨first, rest, alone, others, rfl⟩ := answers_cons_eq_ok_iff.mp ahead
      exact ⟨first, rest ++ second, alone, ih.mpr ⟨rest, second, others, behind, rfl⟩,
        List.append_assoc ..⟩

theorem exists_query_of_answers_eq_error {fault : SwapError}
    (refused : deployment.answers queries = .error fault) :
    ∃ front query back, queries = front ++ query :: back ∧
      (∀ asked ∈ front, ∃ bytes, deployment.answer asked = .ok bytes) ∧
      deployment.answer query = .error fault := by
  induction queries with
  | nil => cases refused
  | cons query later ih =>
    rw [answers_cons] at refused
    cases answered : deployment.answer query with
    | error cause =>
      rw [answered] at refused
      cases refused
      exact ⟨[], query, later, rfl, nofun, answered⟩
    | ok first =>
      rw [answered] at refused
      cases others : deployment.answers later with
      | ok rest =>
        rw [others] at refused
        cases refused
      | error cause =>
        rw [others] at refused
        cases refused
        obtain ⟨front, blamed, back, rfl, passed, failed⟩ := ih others
        refine ⟨query :: front, blamed, back, rfl, ?_, failed⟩
        exact List.forall_mem_cons.mpr ⟨⟨first, answered⟩, passed⟩

theorem length_answers (answered : deployment.answers queries = .ok response) :
    response.length = 32 * queries.length := by
  induction queries generalizing response with
  | nil =>
    cases answered
    rfl
  | cons query later ih =>
    obtain ⟨first, rest, alone, others, rfl⟩ := answers_cons_eq_ok_iff.mp answered
    rw [List.length_append, length_answer alone, ih others, List.length_cons]
    omega

theorem answer_of_answers (answered : deployment.answers queries = .ok response) {i : Nat}
    (asked : queries[i]? = some query) :
    deployment.answer query = .ok ((response.drop (32 * i)).take 32) := by
  induction queries generalizing response i with
  | nil => cases asked
  | cons head later ih =>
    obtain ⟨first, rest, alone, others, rfl⟩ := answers_cons_eq_ok_iff.mp answered
    have width := length_answer alone
    cases i with
    | zero =>
      cases asked
      rw [Nat.mul_zero, List.drop_zero, List.take_left' width]
      exact alone
    | succ i =>
      rw [Nat.mul_succ, Nat.add_comm, ← List.drop_drop, List.drop_left' width]
      exact ih others asked

/-- Answers to two batches of queries follow each other if both are answered, and otherwise the
first query that is refused alone refuses them together. A response has 32 bytes for each query,
and in the place of a query stands what answers it alone. -/
theorem answers_concatenate (deployment : Deployment ρ) :
    (∀ former latter first second, deployment.answers former = .ok first →
      deployment.answers latter = .ok second →
        deployment.answers (former ++ latter) = .ok (first ++ second)) ∧
    (∀ former latter, (¬ ∃ first second, deployment.answers former = .ok first ∧
        deployment.answers latter = .ok second) →
      ∃ front query back fault, former ++ latter = front ++ query :: back ∧
        (∀ asked ∈ front, ∃ bytes, deployment.answers [asked] = .ok bytes) ∧
        deployment.answers [query] = .error fault ∧
        deployment.answers (former ++ latter) = .error fault) ∧
    ∀ queries response, deployment.answers queries = .ok response →
      response.length = 32 * queries.length ∧ ∀ i query, queries[i]? = some query →
        deployment.answers [query] = .ok ((response.drop (32 * i)).take 32) := by
  refine ⟨fun former latter first second ahead behind => ?_, fun former latter failed => ?_,
    fun queries response answered => ?_⟩
  · exact answers_append_eq_ok_iff.mpr ⟨first, second, ahead, behind, rfl⟩
  · simp only [answers_singleton]
    cases joined : deployment.answers (former ++ latter) with
    | ok response =>
      obtain ⟨first, second, ahead, behind, -⟩ := answers_append_eq_ok_iff.mp joined
      exact absurd ⟨first, second, ahead, behind⟩ failed
    | error fault =>
      obtain ⟨front, query, back, split, passed, refused⟩ :=
        exists_query_of_answers_eq_error joined
      exact ⟨front, query, back, fault, split, passed, refused, rfl⟩
  · simp only [answers_singleton]
    exact ⟨length_answers answered, fun i query asked => answer_of_answers answered asked⟩

def plainQueries : List Query := [.feeRecord 2, .owner .current]

/-- Three queries of which the second one has no answer. -/
def upgradeQueries : List Query := [.assistant, .adminCanUpgrade, .endpoint .current 2]

/-- The record of chain 2, and the owner behind it. -/
def plainResponse : Bytes :=
  [0, 0, 0, 8, 0, 0, 0, 1, 0, 0, 0, 0, 0, 0, 0, 0, 0, 0, 0, 10, 0, 0, 0, 0, 0, 0, 0, 0, 0, 0, 0, 1] ++
    (11 : Address).toBytes

theorem plainQueries_concatenate :
    let now := (fresh (.standard 1) MemoryRouter.empty).course registryCourse
    now.answers plainQueries = .ok plainResponse ∧ plainResponse.length = 64 ∧
      now.answers [.owner .current] = .ok ((plainResponse.drop 32).take 32) ∧
      now.answers (plainQueries ++ plainQueries) = .ok (plainResponse ++ plainResponse) ∧
      ∃ query ∈ plainQueries ++ upgradeQueries, ∃ fault, now.answers [query] = .error fault ∧
        now.answers (plainQueries ++ upgradeQueries) = .error fault := by
  intro now
  have answered : now.answers plainQueries = .ok plainResponse :=
    toOption_eq_some_iff.mp (by decide +kernel)
  obtain ⟨together, blamed, placed⟩ := answers_concatenate now
  obtain ⟨width, position⟩ := placed plainQueries plainResponse answered
  have failed : now.answers upgradeQueries = .error .unsupportedQuery := rfl
  have apart : ¬ ∃ first second, now.answers plainQueries = .ok first ∧
      now.answers upgradeQueries = .ok second := by
    rintro ⟨first, second, -, behind⟩
    cases failed.symm.trans behind
  obtain ⟨front, query, back, fault, split, passed, alone, joined⟩ := blamed _ _ apart
  have listed : query ∈ plainQueries ++ upgradeQueries := by simp [split]
  exact ⟨answered, width, position 1 _ rfl, together _ _ _ _ answered answered, query, listed, fault,
    alone, joined⟩

end Batches

end SwapRelay.Deployment
