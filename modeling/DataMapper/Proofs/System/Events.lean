import DataMapper.Proofs.System.Units
/-!
# Events

Runs in which regions, too, may be told at any time to refuse some of their calls. What is said of
such a run is said of its steps, or of the states between its events.
-/

namespace DataMapper

/-- A step, or a change of the calls that a region refuses. -/
inductive Event where
  | step (step : Step)
  | refuse (region : RegionRef) (calls : List RegionCall)

def Event.IsStep : Event → Prop
  | .step _ => True
  | .refuse _ _ => False

namespace System

variable {s : System}

def refuse (s : System) (r : RegionRef) (calls : List RegionCall) : System :=
  { s with shared := { s.shared with regions := s.shared.regions.setRefusing r calls } }

def happen (s : System) : Event → System
  | .step step => (s.step step).2
  | .refuse r calls => s.refuse r calls

/-- The system once all these events have happened. -/
def after (s : System) (events : List Event) : System :=
  events.foldl happen s

/-- What is said of a system and its next step holds of all steps among the events. -/
def Throughout (P : System → Step → Prop) (s : System) : List Event → Prop
  | [] => True
  | .step step :: rest => P s step ∧ (s.step step).2.Throughout P rest
  | .refuse r calls :: rest => (s.refuse r calls).Throughout P rest

/-- What is said of a system and its next step holds of some step among the events. -/
def Sometime (P : System → Step → Prop) (s : System) : List Event → Prop
  | [] => False
  | .step step :: rest => P s step ∨ (s.step step).2.Sometime P rest
  | .refuse r calls :: rest => (s.refuse r calls).Sometime P rest

/-- What is said of a system holds before, between and after the events. -/
def Meanwhile (P : System → Prop) (s : System) : List Event → Prop
  | [] => P s
  | event :: rest => P s ∧ (s.happen event).Meanwhile P rest

instance decidableThroughout {P : System → Step → Prop} [∀ s step, Decidable (P s step)] :
    ∀ (s : System) (events : List Event), Decidable (s.Throughout P events)
  | _, [] => .isTrue trivial
  | s, .step step :: rest =>
    have := decidableThroughout (P := P) (s.step step).2 rest
    inferInstanceAs (Decidable (P s step ∧ (s.step step).2.Throughout P rest))
  | s, .refuse r calls :: rest => decidableThroughout (P := P) (s.refuse r calls) rest

instance decidableSometime {P : System → Step → Prop} [∀ s step, Decidable (P s step)] :
    ∀ (s : System) (events : List Event), Decidable (s.Sometime P events)
  | _, [] => .isFalse id
  | s, .step step :: rest =>
    have := decidableSometime (P := P) (s.step step).2 rest
    inferInstanceAs (Decidable (P s step ∨ (s.step step).2.Sometime P rest))
  | s, .refuse r calls :: rest => decidableSometime (P := P) (s.refuse r calls) rest

theorem after_append (s : System) (events events' : List Event) :
    s.after (events ++ events') = (s.after events).after events' :=
  List.foldl_append

theorem Meanwhile.here {P : System → Prop} {events : List Event} (h : s.Meanwhile P events) :
    P s := by
  cases events with
  | nil => exact h
  | cons event rest => exact h.1

theorem Throughout.imp {P Q : System → Step → Prop} (himp : ∀ s step, P s step → Q s step)
    {events : List Event} (h : s.Throughout P events) : s.Throughout Q events := by
  induction events generalizing s with
  | nil => trivial
  | cons event rest ih =>
    cases event with
    | step step => exact ⟨himp s step h.1, ih h.2⟩
    | refuse r calls => exact ih h

theorem Throughout.not_sometime {P : System → Step → Prop} {events : List Event}
    (h : s.Throughout (fun s step => ¬ P s step) events) : ¬ s.Sometime P events := by
  induction events generalizing s with
  | nil => exact id
  | cons event rest ih =>
    cases event with
    | step step => exact not_or.2 ⟨h.1, ih h.2⟩
    | refuse r calls => exact ih h

theorem sometime_append {P : System → Step → Prop} {events events' : List Event} :
    s.Sometime P (events ++ events') ↔
      s.Sometime P events ∨ (s.after events).Sometime P events' := by
  induction events generalizing s with
  | nil => exact (or_iff_right id).symm
  | cons event rest ih =>
    cases event with
    | step step => exact (or_congr_right ih).trans or_assoc.symm
    | refuse r calls => exact ih

theorem Coherent.happen (h : s.Coherent) (event : Event) : (s.happen event).Coherent := by
  cases event with
  | step step => exact h.step step
  | refuse r calls => exact h

theorem Coherent.after (h : s.Coherent) (events : List Event) : (s.after events).Coherent := by
  induction events generalizing s with
  | nil => exact h
  | cons event rest ih => exact ih (h.happen event)

end System

end DataMapper
