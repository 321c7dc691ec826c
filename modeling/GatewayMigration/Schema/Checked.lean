import GatewayMigration.Schema.Problem
/-!
# Checked values

The result of reading a document: a value, or every problem found. Two checked values combine
without hiding the problems of either (`problems_seq`).
-/

namespace GatewayMigration

inductive Checked (α : Type)
  | valid (a : α)
  | invalid (problems : List Problem)
deriving DecidableEq, Repr

namespace Checked

variable {α β : Type}

def problem (k : ProblemKind) : Checked α := .invalid [⟨k, []⟩]

def map (f : α → β) : Checked α → Checked β
  | .valid a => .valid (f a)
  | .invalid ps => .invalid ps

def seq : Checked (α → β) → Checked α → Checked β
  | .valid f, .valid a => .valid (f a)
  | .valid _, .invalid qs => .invalid qs
  | .invalid ps, .valid _ => .invalid ps
  | .invalid ps, .invalid qs => .invalid (ps ++ qs)

instance : Applicative Checked where
  pure := .valid
  map := map
  seq f a := seq f (a ())

def problems : Checked α → List Problem
  | .valid _ => []
  | .invalid ps => ps

/-- Go on with a second check if the first one found nothing. -/
def bind : Checked α → (α → Checked β) → Checked β
  | .valid a, f => f a
  | .invalid ps, _ => .invalid ps

/-- Put the problems under a step. -/
def under (s : Step) : Checked α → Checked α
  | .valid a => .valid a
  | .invalid ps => .invalid (ps.map (·.under s))

/-- Add problems found elsewhere. -/
def along (more : List Problem) (c : Checked α) : Checked α :=
  if more.isEmpty then c else .invalid (c.problems ++ more)

def toExcept : Checked α → Except (List Problem) α
  | .valid a => .ok a
  | .invalid ps => .error ps

/-- All values of a list, or the problems of all its members, each under its index. -/
def all (check : β → Checked α) : (index : Nat) → List β → Checked (List α)
  | _, [] => .valid []
  | i, b :: bs => seq (map List.cons ((check b).under (.index i))) (all check (i + 1) bs)

theorem problems_seq (f : Checked (α → β)) (a : Checked α) :
    (seq f a).problems = f.problems ++ a.problems := by
  cases f <;> cases a <;> simp [seq, problems]

theorem all_valid {check : β → Checked α} {write : α → β} (as : List α)
    (h : ∀ a ∈ as, check (write a) = .valid a) (i : Nat) :
    all check i (as.map write) = .valid as := by
  induction as generalizing i with
  | nil => rfl
  | cons a as ih =>
    simp only [List.map_cons, all, h a (by simp), ih (fun b hb => h b (by simp [hb])), under, map,
      seq]

end Checked

end GatewayMigration
