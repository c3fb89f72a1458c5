/-
# Character classes

A class of characters is given by its runs of consecutive code points, in
increasing order, as the tables of the Unicode character properties are.

* `contains_iff` — membership is membership in one of the runs, when the runs
  increase.
* `contains_eq_false_of_apart` — classes whose runs do not meet are disjoint.
-/

namespace Spreadsheet

/-- A set of characters, as runs of code points with their first and last member. -/
structure CharClass where
  runs : List (Nat × Nat)

namespace CharClass

/-- Whether a code point lies in one of the runs; the search ends at the first
run that starts after it. -/
def runsContain (code : Nat) : List (Nat × Nat) → Bool
  | [] => false
  | (first, last) :: rest =>
    if code < first then false
    else if code ≤ last then true
    else runsContain code rest

/-- Whether the character belongs to the class. -/
def contains (charClass : CharClass) (c : Char) : Bool :=
  runsContain c.toNat charClass.runs

/-- Runs in increasing order: each starts after the end of the ones before it. -/
def Increasing (runs : List (Nat × Nat)) : Prop :=
  runs.Pairwise (fun a b => a.2 < b.1) ∧ ∀ run ∈ runs, run.1 ≤ run.2

/-- A code point that is found lies in one of the runs. -/
theorem exists_run_of_runsContain {code : Nat} {runs : List (Nat × Nat)}
    (h : runsContain code runs = true) : ∃ run ∈ runs, run.1 ≤ code ∧ code ≤ run.2 := by
  induction runs with
  | nil => cases h
  | cons run rest ih =>
    obtain ⟨first, last⟩ := run
    rw [runsContain] at h
    split at h
    · cases h
    · rename_i hfirst
      split at h
      · rename_i hlast
        exact ⟨(first, last), List.mem_cons_self, Nat.le_of_not_lt hfirst, hlast⟩
      · obtain ⟨run, hrun, hbounds⟩ := ih h
        exact ⟨run, List.mem_cons_of_mem _ hrun, hbounds⟩

/-- A code point that lies in one of the runs is found, when the runs increase. -/
theorem runsContain_of_mem {runs : List (Nat × Nat)} (increasing : Increasing runs) {code : Nat}
    {run : Nat × Nat} (hrun : run ∈ runs) (hlow : run.1 ≤ code) (hhigh : code ≤ run.2) :
    runsContain code runs = true := by
  induction runs with
  | nil => cases hrun
  | cons top rest ih =>
    obtain ⟨apart, ordered⟩ := increasing
    rw [List.pairwise_cons] at apart
    have htop := ordered top List.mem_cons_self
    obtain ⟨first, last⟩ := top
    rw [runsContain]
    rcases List.mem_cons.mp hrun with rfl | hrest
    · rw [if_neg (Nat.not_lt.mpr hlow), if_pos hhigh]
    · -- the runs increase, so the search passes the first run by
      have hpassed : last < code := Nat.lt_of_lt_of_le (apart.1 run hrest) hlow
      have hnext := ih ⟨apart.2, fun r hr => ordered r (List.mem_cons_of_mem _ hr)⟩ hrest
      rw [if_neg (Nat.not_lt.mpr (Nat.le_trans htop (Nat.le_of_lt hpassed))),
        if_neg (Nat.not_le.mpr hpassed), hnext]

theorem runsContain_iff {runs : List (Nat × Nat)} (increasing : Increasing runs) (code : Nat) :
    runsContain code runs = true ↔ ∃ run ∈ runs, run.1 ≤ code ∧ code ≤ run.2 := by
  constructor
  · exact exists_run_of_runsContain
  · rintro ⟨run, hrun, hlow, hhigh⟩
    exact runsContain_of_mem increasing hrun hlow hhigh

/-- A character belongs to a class exactly when a run of the class spans it. -/
theorem contains_iff {charClass : CharClass} (increasing : Increasing charClass.runs) (c : Char) :
    charClass.contains c = true ↔ ∃ run ∈ charClass.runs, run.1 ≤ c.toNat ∧ c.toNat ≤ run.2 :=
  runsContain_iff increasing c.toNat

/-- Classes whose runs do not meet have no character in common. -/
theorem contains_eq_false_of_apart {a b : CharClass}
    (apart : a.runs.all (fun x => b.runs.all fun y => decide (x.2 < y.1) || decide (y.2 < x.1)) =
      true) {c : Char} (h : a.contains c = true) : b.contains c = false := by
  rw [Bool.eq_false_iff]
  intro hb
  obtain ⟨x, hx, hxLow, hxHigh⟩ := exists_run_of_runsContain h
  obtain ⟨y, hy, hyLow, hyHigh⟩ := exists_run_of_runsContain hb
  have hapart := List.all_eq_true.mp (List.all_eq_true.mp apart x hx) y hy
  simp only [Bool.or_eq_true, decide_eq_true_eq] at hapart
  omega

end CharClass

end Spreadsheet
