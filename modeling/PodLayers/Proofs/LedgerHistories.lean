import Mathlib.Data.List.DropRight
import PodLayers.Proofs.AskedPresets

/-!
# Histories of a ledger

Presets are asked for one after another, for any targets, with contributions that act on a world of the
caller and may fail, and now and then the ledger is cleared. What a request is answered, whether its
contribution is run, and what is on record depend on the replies since the ledger was last cleared and on
nothing else: a failure leaves no trace there, so a contribution that failed is run again when asked for.
-/

namespace PodLayers.Proofs

/-! ## Calls and replies -/

/-- What is done with a ledger. A contribution acts on the caller's world, whether or not it succeeds. -/
inductive LedgerCall (σ α : Type)
  | ask (target : Target) (key : PresetKey) (contribute : StateM σ (Except Issue α))
  | clear

/-- What is seen of a call: how often the contribution was run, and the answer. -/
inductive Reply
  | answered (target : Target) (key : PresetKey) (runs : Nat) (answer : Except Issue Bool)
  | cleared

def Reply.isCleared : Reply → Bool
  | .cleared => true
  | .answered .. => false

/-- Whether the preset was granted now; a preset on record is answered `false`. -/
def turnAnswer {α : Type} (key : PresetKey) : Turn α → Except Issue Bool
  | .unknown => .error (.unknownPreset key)
  | .repeated => .ok false
  | .failed issue => .error issue
  | .granted _ => .ok true

/-- A ledger in use, and all replies so far. -/
structure LedgerSession (σ : Type) where
  ledger : Ledger
  world : σ
  replies : List Reply

/-- A contribution that also counts how often it is run. -/
def counted {σ α : Type} (contribute : StateM σ (Except Issue α)) : StateM (σ × Nat) (Except Issue α) :=
  fun state =>
    let (attempt, world) := contribute.run state.1
    (attempt, (world, state.2 + 1))

namespace LedgerSession

variable {σ α : Type}

def reply (session : LedgerSession σ) (seen : Reply) : LedgerSession σ :=
  { session with replies := session.replies ++ [seen] }

def step (session : LedgerSession σ) : LedgerCall σ α → LedgerSession σ
  | .ask target key contribute =>
    let ((turn, ledger), (world, runs)) :=
      (session.ledger.claimBy target key (counted contribute)).run (session.world, 0)
    { session with ledger, world }.reply (.answered target key runs (turnAnswer key turn))
  | .clear => { session with ledger := session.ledger.clear }.reply .cleared

/-- A session with a new ledger of known keys. -/
def run (keys : List PresetKey) (world : σ) (calls : List (LedgerCall σ α)) : LedgerSession σ :=
  calls.foldl step ⟨.ofKeys keys, world, []⟩

end LedgerSession

/-! ## What the replies say -/

/-- The replies since the ledger was last cleared. -/
def sinceCleared (replies : List Reply) : List Reply := replies.rtakeWhile fun seen => !seen.isCleared

/-- A request for the preset was answered `true` since the ledger was last cleared. -/
def GrantedSince (replies : List Reply) (target : Target) (key : PresetKey) : Prop :=
  ∃ runs, .answered target key runs (.ok true) ∈ sinceCleared replies

section Replies

variable {replies : List Reply} {target target' : Target} {key key' : PresetKey} {runs : Nat}
  {answer : Except Issue Bool}

lemma granted_nil : ¬GrantedSince [] target key := by
  rintro ⟨runs, h⟩
  rw [sinceCleared, List.rtakeWhile_nil] at h
  exact List.not_mem_nil h

lemma granted_cleared : ¬GrantedSince (replies ++ [.cleared]) target key := by
  rintro ⟨runs, h⟩
  rw [sinceCleared, List.rtakeWhile_concat_neg _ _ _ (by simp [Reply.isCleared])] at h
  exact List.not_mem_nil h

lemma granted_answered :
    GrantedSince (replies ++ [.answered target' key' runs answer]) target key ↔
      GrantedSince replies target key ∨ (target' = target ∧ key' = key ∧ answer = .ok true) := by
  have hsince : sinceCleared (replies ++ [.answered target' key' runs answer]) =
      sinceCleared replies ++ [.answered target' key' runs answer] :=
    List.rtakeWhile_concat_pos _ _ _ rfl
  simp only [GrantedSince, hsince, List.mem_append, List.mem_singleton, Reply.answered.injEq]
  constructor
  · rintro ⟨n, h | ⟨rfl, rfl, -, rfl⟩⟩
    · exact .inl ⟨n, h⟩
    · exact .inr ⟨rfl, rfl, rfl⟩
  · rintro (⟨n, h⟩ | ⟨rfl, rfl, rfl⟩)
    · exact ⟨n, .inl h⟩
    · exact ⟨runs, .inr ⟨rfl, rfl, rfl, rfl⟩⟩

/-- A request that is not granted leaves no trace. -/
lemma granted_answered_of_ne (h : answer ≠ .ok true) :
    GrantedSince (replies ++ [.answered target' key' runs answer]) target key ↔
      GrantedSince replies target key := by
  rw [granted_answered]
  exact or_iff_left fun hgranted => h hgranted.2.2

end Replies

/-! ## One call -/

section Step

variable {σ α : Type} {ledger : Ledger} {session : LedgerSession σ} {target : Target} {key : PresetKey}

lemma run_counted (contribute : StateM σ (Except Issue α)) (world : σ) (runs : Nat) :
    (counted contribute).run (world, runs) =
      ((contribute.run world).1, ((contribute.run world).2, runs + 1)) := rfl

variable (session target) (contribute : StateM σ (Except Issue α))

lemma step_unknown (hknown : session.ledger.isKnown key = false) :
    session.step (.ask target key contribute) =
      session.reply (.answered target key 0 (.error (.unknownPreset key))) := by
  rw [LedgerSession.step, claimBy_unknown _ hknown]
  rfl

lemma step_repeated (hknown : session.ledger.isKnown key = true)
    (happlied : session.ledger.isApplied target key = true) :
    session.step (.ask target key contribute) = session.reply (.answered target key 0 (.ok false)) := by
  rw [LedgerSession.step, claimBy_repeated _ hknown happlied]
  rfl

lemma step_due (hknown : session.ledger.isKnown key = true)
    (happlied : session.ledger.isApplied target key = false) :
    session.step (.ask target key contribute) =
      { session with
        ledger := (session.ledger.claim target key (contribute.run session.world).1).2
        world := (contribute.run session.world).2 }.reply
          (.answered target key 1 ((contribute.run session.world).1.map fun _ => true)) := by
  have hanswer (attempt : Except Issue α) :
      turnAnswer key (session.ledger.claim target key attempt).1 = attempt.map fun _ => true := by
    rw [claim_due attempt hknown happlied]
    cases attempt <;> rfl
  rw [LedgerSession.step, claimBy_due _ hknown happlied, StateT.run_map, run_counted, ← hanswer]
  rfl

end Step

/-! ## Histories -/

/-- What a session has on record: the keys it was given, and each pair that was granted since the ledger was
last cleared. -/
structure Recorded {σ : Type} (keys : List PresetKey) (session : LedgerSession σ) : Prop where
  known : session.ledger.known = (Ledger.ofKeys keys).known
  distinct : session.ledger.applied.Nodup
  applied : ∀ target key, (target, key) ∈ session.ledger.applied ↔ GrantedSince session.replies target key

/-- How the next request is answered, and what it leaves. -/
structure Answered {σ α : Type} (keys : List PresetKey) (session : LedgerSession σ) (target : Target)
    (key : PresetKey) (contribute : StateM σ (Except Issue α)) (next : LedgerSession σ) : Prop where
  unknown : key ∉ keys → next = session.reply (.answered target key 0 (.error (.unknownPreset key)))
  repeated : key ∈ keys → GrantedSince session.replies target key →
    next = session.reply (.answered target key 0 (.ok false))
  due : key ∈ keys → ¬GrantedSince session.replies target key →
    next.world = (contribute.run session.world).2 ∧
      next.replies = session.replies ++
        [.answered target key 1 ((contribute.run session.world).1.map fun _ => true)]
  failed : ∀ issue, (contribute.run session.world).1 = .error issue → next.ledger = session.ledger

section Histories

variable {σ α : Type} {keys : List PresetKey} {session : LedgerSession σ}

lemma recorded_start (keys : List PresetKey) (world : σ) :
    Recorded keys (⟨.ofKeys keys, world, []⟩ : LedgerSession σ) where
  known := rfl
  distinct := List.nodup_nil
  applied _ _ := iff_of_false List.not_mem_nil granted_nil

namespace Recorded

lemma isKnown_iff (h : Recorded keys session) (key : PresetKey) :
    session.ledger.isKnown key = true ↔ key ∈ keys := by
  rw [Ledger.isKnown, h.known, List.contains_iff_mem, Ledger.ofKeys, mem_foldl_insertInOrder]
  exact or_iff_right List.not_mem_nil

lemma isApplied_iff (h : Recorded keys session) (target : Target) (key : PresetKey) :
    session.ledger.isApplied target key = true ↔ GrantedSince session.replies target key := by
  rw [Ledger.isApplied, List.contains_iff_mem]
  exact h.applied target key

/-- An answer other than `true`, with the ledger as it was. -/
lemma refused (h : Recorded keys session) (target : Target) (key : PresetKey) (world : σ) (runs : Nat)
    {answer : Except Issue Bool} (hanswer : answer ≠ .ok true) :
    Recorded keys ({ session with world }.reply (.answered target key runs answer)) where
  known := h.known
  distinct := h.distinct
  applied other otherKey := (h.applied other otherKey).trans (granted_answered_of_ne hanswer).symm

/-- A pair that is granted goes on record. -/
lemma granted (h : Recorded keys session) {target : Target} {key : PresetKey}
    (hfresh : session.ledger.isApplied target key = false) (world : σ) (runs : Nat) :
    Recorded keys ({ session with ledger := session.ledger.record target key, world }.reply
      (.answered target key runs (.ok true))) where
  known := h.known
  distinct := by
    have hnew : (target, key) ∉ session.ledger.applied := by
      rw [← List.contains_iff_mem]
      exact Bool.eq_false_iff.1 hfresh
    have hperm : (insertInOrder Application.before (target, key) session.ledger.applied).Perm
        ((target, key) :: session.ledger.applied) :=
      (insertInOrder_perm _ hnew).trans (List.perm_append_singleton _ _)
    exact hperm.nodup_iff.2 (List.nodup_cons.2 ⟨hnew, h.distinct⟩)
  applied other otherKey := by
    have hrecord : (other, otherKey) ∈ (session.ledger.record target key).applied ↔
        (other, otherKey) = (target, key) ∨ (other, otherKey) ∈ session.ledger.applied :=
      mem_insertInOrder _ _ _ _
    have hpair : (other, otherKey) = (target, key) ↔
        target = other ∧ key = otherKey ∧ (.ok true : Except Issue Bool) = .ok true := by
      simp [eq_comm]
    exact hrecord.trans (by rw [or_comm, h.applied, hpair]; exact granted_answered.symm)

lemma cleared (h : Recorded keys session) :
    Recorded keys ({ session with ledger := session.ledger.clear }.reply .cleared) where
  known := h.known
  distinct := List.nodup_nil
  applied _ _ := iff_of_false List.not_mem_nil granted_cleared

lemma step (h : Recorded keys session) (call : LedgerCall σ α) : Recorded keys (session.step call) := by
  cases call with
  | clear => exact h.cleared
  | ask target key contribute =>
    cases hknown : session.ledger.isKnown key with
    | false =>
      rw [step_unknown session target contribute hknown]
      exact h.refused target key session.world 0 nofun
    | true =>
      cases happlied : session.ledger.isApplied target key with
      | true =>
        rw [step_repeated session target contribute hknown happlied]
        exact h.refused target key session.world 0 nofun
      | false =>
        rw [step_due session target contribute hknown happlied, claim_due _ hknown happlied]
        cases (contribute.run session.world).1 with
        | error issue => exact h.refused target key _ 1 nofun
        | ok a => exact h.granted happlied _ 1

end Recorded

lemma recorded_run (keys : List PresetKey) (world : σ) (calls : List (LedgerCall σ α)) :
    Recorded keys (LedgerSession.run keys world calls) := by
  induction calls using List.reverseRecOn with
  | nil => exact recorded_start keys world
  | append_singleton calls call ih =>
    rw [LedgerSession.run, List.foldl_concat]
    exact ih.step call

lemma answered_step (h : Recorded keys session) (target : Target) (key : PresetKey)
    (contribute : StateM σ (Except Issue α)) :
    Answered keys session target key contribute (session.step (.ask target key contribute)) where
  unknown hkey := step_unknown session target contribute (by
    rw [← h.isKnown_iff] at hkey
    exact Bool.eq_false_iff.2 hkey)
  repeated hkey hgranted := step_repeated session target contribute ((h.isKnown_iff key).2 hkey)
    ((h.isApplied_iff target key).2 hgranted)
  due hkey hfresh := by
    rw [← h.isApplied_iff] at hfresh
    rw [step_due session target contribute ((h.isKnown_iff key).2 hkey) (Bool.eq_false_iff.2 hfresh)]
    exact ⟨rfl, rfl⟩
  failed issue hissue := by
    cases hknown : session.ledger.isKnown key with
    | false => rw [step_unknown session target contribute hknown]; rfl
    | true =>
      cases happlied : session.ledger.isApplied target key with
      | true => rw [step_repeated session target contribute hknown happlied]; rfl
      | false =>
        rw [step_due session target contribute hknown happlied, hissue, claim_due _ hknown happlied]
        rfl

end Histories

/-- After any history, what is on record is what was granted since the ledger was last cleared, and the next
request is answered accordingly. -/
theorem ledger_follows_replies {σ α : Type} (keys : List PresetKey) (world : σ)
    (calls : List (LedgerCall σ α)) :
    Recorded keys (LedgerSession.run keys world calls) ∧
      ∀ target key (contribute : StateM σ (Except Issue α)),
        Answered keys (LedgerSession.run keys world calls) target key contribute
          ((LedgerSession.run keys world calls).step (.ask target key contribute)) := by
  have hrecorded := recorded_run keys world calls
  exact ⟨hrecorded, answered_step hrecorded⟩

/-- A contribution that fails the first time it is run. The world is the number of its runs. -/
def failsFirst : StateM Nat (Except Issue Unit) := fun runs =>
  (if runs = 0 then .error (.malformed "spec" "boom") else .ok (), runs + 1)

def sampleTarget : Target := ⟨"default", "kb"⟩

/-- A key that is not known, a failure, a second attempt, and the same preset for another target. -/
def retriedCalls : List (LedgerCall Nat Unit) :=
  [.ask sampleTarget "audit" failsFirst, .ask sampleTarget "monitoring" failsFirst,
    .ask sampleTarget "monitoring" failsFirst, .ask ⟨"ops", "kb"⟩ "monitoring" failsFirst]

theorem ledger_follows_replies_retried :
    (LedgerSession.run ["monitoring"] 0 retriedCalls).replies =
        [.answered sampleTarget "audit" 0 (.error (.unknownPreset "audit")),
          .answered sampleTarget "monitoring" 1 (.error (.malformed "spec" "boom")),
          .answered sampleTarget "monitoring" 1 (.ok true),
          .answered ⟨"ops", "kb"⟩ "monitoring" 1 (.ok true)] ∧
      (sampleTarget, "monitoring") ∈ (LedgerSession.run ["monitoring"] 0 retriedCalls).ledger.applied ∧
      LedgerSession.run ["monitoring"] 0 (retriedCalls ++ [.ask sampleTarget "monitoring" failsFirst]) =
        (LedgerSession.run ["monitoring"] 0 retriedCalls).reply
          (.answered sampleTarget "monitoring" 0 (.ok false)) ∧
      (LedgerSession.run ["monitoring"] 0
          (retriedCalls ++ [.clear, .ask sampleTarget "monitoring" failsFirst])).world = 4 := by
  have hreplies : (LedgerSession.run ["monitoring"] 0 retriedCalls).replies =
      [.answered sampleTarget "audit" 0 (.error (.unknownPreset "audit")),
        .answered sampleTarget "monitoring" 1 (.error (.malformed "spec" "boom")),
        .answered sampleTarget "monitoring" 1 (.ok true),
        .answered ⟨"ops", "kb"⟩ "monitoring" 1 (.ok true)] := rfl
  have hgranted : GrantedSince (LedgerSession.run ["monitoring"] 0 retriedCalls).replies sampleTarget
      "monitoring" := by
    refine ⟨1, ?_⟩
    rw [hreplies]
    simp [sinceCleared, List.rtakeWhile, Reply.isCleared]
  have hcleared : ¬GrantedSince
      (LedgerSession.run ["monitoring"] 0 (retriedCalls ++ [.clear])).replies sampleTarget "monitoring" :=
    granted_cleared
  obtain ⟨hrecorded, hanswered⟩ := ledger_follows_replies ["monitoring"] 0 retriedCalls
  obtain ⟨-, hafter⟩ := ledger_follows_replies ["monitoring"] 0 (retriedCalls ++ [.clear])
  refine ⟨hreplies, (hrecorded.applied _ _).2 hgranted, ?_, ?_⟩
  · exact (hanswered sampleTarget "monitoring" failsFirst).repeated (by decide) hgranted
  · exact ((hafter sampleTarget "monitoring" failsFirst).due (by decide) hcleared).1

end PodLayers.Proofs
