import ClusterMembership.Cluster.Pass
import ClusterMembership.Cluster.Recovery
/-!
# Histories of a cluster

A history is a list of events. The group and the signals may change at any time, also while a call is outstanding;
passes and recoveries run one at a time and take the answers to their calls as events. `Moment.run` follows a history,
and `Moment.run_answers` says that no more than `remaining` answers, whatever they are, bring the controller to rest.
-/
namespace ClusterMembership

/-- What happens to a cluster. -/
inductive Event where
  /-- A node enters the group. -/
  | enter (n : Node)
  /-- The member of an identity leaves the group. -/
  | depart (id : NodeId)
  | report (n : Node) (s : Signal) (value : Bool)
  /-- The group is marked as started or stopped. -/
  | mark (isStarted : Bool)
  /-- A pass starts. -/
  | reconcile
  /-- A recovery starts. -/
  | recover (failed sponsor : NodeId)
  /-- The outstanding call is answered. -/
  | answer (a : Answer)

/-- What a controller is busy with. -/
inductive Activity where
  | resting
  | passing (call : Call) (pending : Pending)
  | recovering (r : Recovery)

/-- The calls that an activity can still make, the one under way included. -/
def Activity.remaining : Activity → Nat
  | resting => 0
  | passing call pending => (Progress.calling call pending).remaining
  | recovering _ => 1

/-- A cluster at one moment of its history. -/
structure Moment where
  cluster : Cluster
  activity : Activity := .resting
  /-- What the last pass came to. -/
  outcome : Option (Except Failure Outcome) := none

namespace Moment

def ofProgress (outcome : Option (Except Failure Outcome)) : Cluster × Progress → Moment
  | (c, .finished result) => ⟨c, .resting, some result⟩
  | (c, .calling call pending) => ⟨c, .passing call pending, outcome⟩

def reconcile (m : Moment) : Moment :=
  match m.activity with
  | .resting => ofProgress m.outcome m.cluster.begin
  | _ => m

/-- Starts a recovery, if the controller is free and nothing stands against it. -/
def recover (m : Moment) (failed sponsor : NodeId) : Moment :=
  match m.activity, m.cluster.beginRecovery failed sponsor with
  | .resting, .ok r => { m with activity := .recovering r }
  | _, _ => m

/-- Takes the answer to the outstanding call, if there is one. -/
def answer (m : Moment) (a : Answer) : Moment :=
  match m.activity with
  | .resting => m
  | .passing _ pending => ofProgress m.outcome (m.cluster.resume pending a)
  | .recovering r => { m with cluster := (m.cluster.finishRecovery r a).1, activity := .resting }

def step (m : Moment) : Event → Moment
  | .enter n => { m with cluster := (m.cluster.addMember n).1 }
  | .depart id => { m with cluster := (m.cluster.removeMember id).1 }
  | .report n s value => { m with cluster := (m.cluster.report n s value).1 }
  | .mark isStarted => { m with cluster := m.cluster.mark isStarted }
  | .reconcile => m.reconcile
  | .recover failed sponsor => m.recover failed sponsor
  | .answer a => m.answer a

def run (m : Moment) (history : List Event) : Moment := history.foldl step m

theorem run_append (m : Moment) (before after : List Event) : m.run (before ++ after) = (m.run before).run after :=
  List.foldl_append

theorem remaining_ofProgress (outcome : Option (Except Failure Outcome)) (p : Cluster × Progress) :
    (ofProgress outcome p).activity.remaining = p.2.remaining := by
  obtain ⟨c, result | ⟨call, pending⟩⟩ := p <;> rfl

theorem remaining_answer (m : Moment) (a : Answer) :
    (m.answer a).activity.remaining ≤ m.activity.remaining - 1 := by
  obtain ⟨c, activity, outcome⟩ := m
  cases activity with
  | resting => exact Nat.zero_le _
  | passing call pending =>
    have h := Cluster.remaining_resume c call pending a
    rw [answer, remaining_ofProgress]
    exact Nat.le_sub_one_of_lt h
  | recovering r => exact Nat.zero_le _

theorem resting_of_remaining {a : Activity} (h : a.remaining = 0) : a = .resting := by
  cases a with
  | resting => rfl
  | passing => simp [Activity.remaining, Progress.remaining] at h
  | recovering => simp [Activity.remaining] at h

/-- **Answers bring the controller to rest**, whatever they are. -/
theorem run_answers (m : Moment) (as : List Answer) (h : m.activity.remaining ≤ as.length) :
    (m.run (as.map .answer)).activity = .resting := by
  induction as generalizing m with
  | nil => exact resting_of_remaining (Nat.le_zero.1 h)
  | cons a as ih =>
    refine ih (m.answer a) ?_
    have := remaining_answer m a
    simp only [List.length_cons] at h; omega

end Moment

end ClusterMembership
