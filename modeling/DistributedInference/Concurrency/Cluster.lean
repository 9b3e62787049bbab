import DistributedInference.Transition.System

/-!
# Replicas that share services

A cluster runs one program on any number of replicas.  Each replica has a memory of its
own, and all of them work on the same services.  A replica can be started at any time and
crash at any time; of a crashed one, only what it had sent on its way can still arrive.

What holds of the services together with one memory holds of every replica, if a step of
the program keeps it for the replica that moves and for any other.  What a replica can do
alone, it can do inside the cluster.
-/

namespace DistributedInference.Concurrency

open Transition

universe u v w x

/-- A replica with its memory. -/
structure Replica (Memory : Type v) where
  memory : Memory
  alive : Bool

structure Cluster (Services : Type u) (Memory : Type v) where
  services : Services
  replicas : List (Replica Memory)

/-- What can happen next. -/
inductive ClusterEvent (Outside : Type w) (Label : Type x) where
  | outside (event : Outside)
  | start
  | crash (index : Nat)
  | act (index : Nat) (label : Label)

/-- A program that works on services. -/
structure Program (Services : Type u) (Memory : Type v) (Outside : Type w)
    (Label : Type x) where
  initial : Services
  /-- The memory of a replica that has just started. -/
  fresh : Memory
  step : Services × Memory → Label → Option (Services × Memory)
  /-- What happens to the services from outside. -/
  outside : Services → Outside → Option Services
  /-- What can still arrive from a crashed replica. -/
  late : Label → Bool

variable {Services : Type u} {Memory : Type v} {Outside : Type w} {Label : Type x}

/-- The program on one replica. -/
def Program.alone (program : Program Services Memory Outside Label) :
    System (Services × Memory) Label :=
  .ofFunction (program.initial, program.fresh) program.step

namespace Cluster

section

variable (program : Program Services Memory Outside Label)

/-- The replica at `index` takes a step, or something arrives from it. -/
def act (cluster : Cluster Services Memory) (index : Nat) (label : Label) :
    Option (Cluster Services Memory) :=
  match cluster.replicas[index]? with
  | none => none
  | some replica =>
      if replica.alive || program.late label then
        (program.step (cluster.services, replica.memory) label).map fun next =>
          ⟨next.1, cluster.replicas.set index ⟨next.2, replica.alive⟩⟩
      else none

def step (cluster : Cluster Services Memory) :
    ClusterEvent Outside Label → Option (Cluster Services Memory)
  | .outside event =>
      (program.outside cluster.services event).map fun services =>
        { cluster with services := services }
  | .start => some { cluster with replicas := cluster.replicas ++ [⟨program.fresh, true⟩] }
  | .crash index =>
      cluster.replicas[index]?.map fun replica =>
        { cluster with replicas := cluster.replicas.set index ⟨replica.memory, false⟩ }
  | .act index label => cluster.act program index label

end

/-- The steps of a cluster. -/
inductive Moves (program : Program Services Memory Outside Label)
    (cluster : Cluster Services Memory) :
    ClusterEvent Outside Label → Cluster Services Memory → Prop
  | outside {event : Outside} {services : Services} :
      program.outside cluster.services event = some services →
      Moves program cluster (.outside event) { cluster with services := services }
  | start :
      Moves program cluster .start
        { cluster with replicas := cluster.replicas ++ [⟨program.fresh, true⟩] }
  | crash {index : Nat} {replica : Replica Memory} :
      cluster.replicas[index]? = some replica →
      Moves program cluster (.crash index)
        { cluster with replicas := cluster.replicas.set index ⟨replica.memory, false⟩ }
  | act {index : Nat} {label : Label} {replica : Replica Memory}
      {next : Services × Memory} :
      cluster.replicas[index]? = some replica →
      program.step (cluster.services, replica.memory) label = some next →
      Moves program cluster (.act index label)
        ⟨next.1, cluster.replicas.set index ⟨next.2, replica.alive⟩⟩

variable {program : Program Services Memory Outside Label}
variable {cluster next : Cluster Services Memory} {event : ClusterEvent Outside Label}

theorem moves_of_step (taken : cluster.step program event = some next) :
    cluster.Moves program event next := by
  cases event with
  | outside event =>
      rcases Option.map_eq_some_iff.mp taken with ⟨services, happened, rfl⟩
      exact .outside happened
  | start =>
      cases taken
      exact .start
  | crash index =>
      rcases Option.map_eq_some_iff.mp taken with ⟨replica, found, rfl⟩
      exact .crash found
  | act index label =>
      simp only [step, act] at taken
      split at taken
      next => contradiction
      next replica found =>
        rw [Option.ite_none_right_eq_some] at taken
        rcases Option.map_eq_some_iff.mp taken.2 with ⟨next, moved, rfl⟩
        exact .act found moved

end Cluster

/-- The steps of the replicas meet a condition. -/
def Cluster.Allows (allowed : Services × Memory → Label → Prop)
    (cluster : Cluster Services Memory) : ClusterEvent Outside Label → Prop
  | .act index label => ∀ replica, cluster.replicas[index]? = some replica →
      allowed (cluster.services, replica.memory) label
  | _ => True

/-- The cluster of a program, before any replica is started. -/
def Program.cluster (program : Program Services Memory Outside Label)
    (allowed : Services × Memory → Label → Prop) :
    System (Cluster Services Memory) (ClusterEvent Outside Label) :=
  (System.ofFunction ⟨program.initial, []⟩ (Cluster.step program)).restrict
    (Cluster.Allows allowed)

variable {program : Program Services Memory Outside Label}
variable {allowed : Services × Memory → Label → Prop} {holds : Services → Memory → Prop}
variable {cluster next : Cluster Services Memory} {event : ClusterEvent Outside Label}

/-! ## What holds of every replica -/

/-- A property of the services and one memory that every move keeps: a step of a replica
for the memory that it leaves behind, and for the memory of any other. -/
structure Program.Keeps (program : Program Services Memory Outside Label)
    (allowed : Services × Memory → Label → Prop) (holds : Services → Memory → Prop) :
    Prop where
  initial : holds program.initial program.fresh
  outside : ∀ {services event later memory}, holds services memory →
    program.outside services event = some later → holds later memory
  own : ∀ {services memory label next}, holds services memory →
    allowed (services, memory) label →
    program.step (services, memory) label = some next → holds next.1 next.2
  other : ∀ {services memory label next other}, holds services memory →
    allowed (services, memory) label →
    program.step (services, memory) label = some next →
    holds services other → holds next.1 other

/-- What holds of a cluster: also of the replica that is started next. -/
def Cluster.Holds (program : Program Services Memory Outside Label)
    (holds : Services → Memory → Prop) (cluster : Cluster Services Memory) : Prop :=
  holds cluster.services program.fresh ∧
    ∀ replica ∈ cluster.replicas, holds cluster.services replica.memory

theorem Cluster.Holds.moves (keeps : program.Keeps allowed holds)
    (all : cluster.Holds program holds) (allows : cluster.Allows allowed event)
    (moves : cluster.Moves program event next) : next.Holds program holds := by
  rcases all with ⟨fresh, each⟩
  cases moves with
  | outside happened =>
      exact ⟨keeps.outside fresh happened,
        fun replica member => keeps.outside (each replica member) happened⟩
  | start =>
      refine ⟨fresh, ?_⟩
      intro replica member
      rcases List.mem_append.mp member with old | new
      · exact each replica old
      · cases List.mem_singleton.mp new
        exact fresh
  | @crash index crashed found =>
      refine ⟨fresh, ?_⟩
      intro replica member
      rcases List.mem_or_eq_of_mem_set member with old | dead
      · exact each replica old
      · rw [dead]
        exact each crashed (List.mem_of_getElem? found)
  | act found moved =>
      have mover := each _ (List.mem_of_getElem? found)
      have permitted := allows _ found
      refine ⟨keeps.other mover permitted moved fresh, ?_⟩
      intro replica member
      rcases List.mem_or_eq_of_mem_set member with old | stepped
      · exact keeps.other mover permitted moved (each replica old)
      · rw [stepped]
        exact keeps.own mover permitted moved

theorem Program.Keeps.of_reachable (keeps : program.Keeps allowed holds)
    (reachable : (program.cluster allowed).Reachable cluster) :
    cluster.Holds program holds := by
  apply reachable.invariant (Cluster.Holds program holds)
  · intro cluster initial
    cases initial
    exact ⟨keeps.initial, fun replica member => absurd member List.not_mem_nil⟩
  · intro cluster event next _ all taken
    exact all.moves keeps taken.1 (Cluster.moves_of_step taken.2)

/-! ## What one replica can do -/

/-- A living replica can do in the cluster what it can do alone. -/
theorem Program.run_cluster {start finish : Services × Memory} {labels : List Label}
    {index : Nat}
    (run : (program.alone.restrict allowed).Run start labels finish)
    (services : cluster.services = start.1)
    (found : cluster.replicas[index]? = some ⟨start.2, true⟩) :
    (program.cluster allowed).Run cluster (labels.map (.act index))
      ⟨finish.1, cluster.replicas.set index ⟨finish.2, true⟩⟩ := by
  induction run generalizing cluster with
  | nil state =>
      have same : cluster = ⟨state.1, cluster.replicas.set index ⟨state.2, true⟩⟩ := by
        rcases List.getElem?_eq_some_iff.mp found with ⟨inside, here⟩
        rw [← here, List.set_getElem_self, ← services]
      rw [List.map_nil, ← same]
      exact .nil cluster
  | @cons start middle finish label labels taken _ ih =>
      rcases List.getElem?_eq_some_iff.mp found with ⟨inside, _⟩
      have stepped : cluster.act program index label =
          some ⟨middle.1, cluster.replicas.set index ⟨middle.2, true⟩⟩ := by
        have moved : program.step (start.1, start.2) label = some middle := taken.2
        simp [Cluster.act, found, services, moved]
      have rest := @ih ⟨middle.1, cluster.replicas.set index ⟨middle.2, true⟩⟩ rfl
        (List.getElem?_set_self inside)
      rw [List.set_set] at rest
      refine .cons ⟨?_, stepped⟩ rest
      intro replica there
      cases found.symm.trans there
      rw [services]
      exact taken.1

/-- So can a replica that is started now. -/
theorem Program.run_started {finish : Services × Memory} {labels : List Label}
    (run : (program.alone.restrict allowed).Run (cluster.services, program.fresh) labels
      finish) :
    (program.cluster allowed).Run cluster
      (.start :: labels.map (.act cluster.replicas.length))
      ⟨finish.1, cluster.replicas ++ [⟨finish.2, true⟩]⟩ := by
  let started : Cluster Services Memory :=
    { cluster with replicas := cluster.replicas ++ [⟨program.fresh, true⟩] }
  have starts : (program.cluster allowed).Step cluster .start started := ⟨trivial, rfl⟩
  have works := @Program.run_cluster _ _ _ _ program allowed started _ _ _
    cluster.replicas.length run rfl List.getElem?_concat_length
  have replaced : started.replicas.set cluster.replicas.length ⟨finish.2, true⟩ =
      cluster.replicas ++ [⟨finish.2, true⟩] := by
    simp [started]
  rw [replaced] at works
  exact .cons starts works

end DistributedInference.Concurrency
