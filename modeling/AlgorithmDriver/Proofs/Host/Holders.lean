import AlgorithmDriver.Proofs.Host.Onward

/-!
# Who holds a description

The host counts for each description how many hold it: descriptors of processes, and the streams of
the driver.

* `Host.grasps` is how many descriptors of processes denote a description, and `Host.holders` how often
  it is held according to the host.
* `Host.Frees` says which descriptions others than processes may give up.  A process that ends gives up
  just what it has (`finish_balanced`), and whoever releases a description gives up that one
  (`release_frees`).
-/

namespace AlgorithmDriver

/-- How many descriptors of a process denote a description. -/
def Process.grasps (p : Process) (n : Nat) : Nat := (p.descriptors.map Prod.snd).count n

namespace Host

variable {host before after : Host} {freed : Nat → Prop} {n m : Nat} {p q : Process}
  {spare : List Nat}

/-- How many descriptors of all processes denote a description. -/
def grasps (host : Host) (n : Nat) : Nat :=
  (host.processes.flatMap fun p => p.descriptors.map Prod.snd).count n

/-- How often a description is held. -/
def holders (host : Host) (n : Nat) : Nat := (host.descriptions[n]?).elim 0 Description.holders

/-! ## Descriptors -/

theorem grasps_of_processes (same : after.processes = before.processes) (n : Nat) :
    after.grasps n = before.grasps n := by
  unfold grasps
  rw [same]

/-- When a process changes, its share of the descriptors does. -/
theorem grasps_setProcess (found : host.process? m = some p) (n : Nat) :
    (host.setProcess m q).grasps n + p.grasps n = host.grasps n + q.grasps n := by
  unfold grasps Process.grasps setProcess process? at *
  dsimp only
  generalize host.processes = processes at found
  induction processes generalizing m with
  | nil => cases found
  | cons first rest ih =>
    cases m with
    | zero =>
      obtain rfl := Option.some.inj found
      simp only [List.set_cons_zero, List.flatMap_cons, List.count_append]
      omega
    | succ m =>
      have after := ih found
      simp only [List.set_cons_succ, List.flatMap_cons, List.count_append]
      omega

theorem grasps_le (found : host.process? m = some p) (n : Nat) : p.grasps n ≤ host.grasps n := by
  have without := grasps_setProcess found n (q := { p with descriptors := [] })
  rw [show Process.grasps { p with descriptors := [] } n = 0 from rfl] at without
  omega

theorem grasps_append (host : Host) (p : Process) (n : Nat) :
    Host.grasps { host with processes := host.processes ++ [p] } n = host.grasps n + p.grasps n := by
  unfold grasps Process.grasps
  rw [List.flatMap_append, List.count_append, List.flatMap_singleton]

/-- What a descriptor denotes is denoted. -/
theorem grasps_of_denoted {descriptor : Nat} (denotes : denoted p descriptor = some n) :
    0 < p.grasps n := by
  obtain ⟨before, after, same, _⟩ := List.lookup_eq_some_iff.1 denotes
  refine List.count_pos_iff.2 (List.mem_map.2 ⟨(descriptor, n), ?_, rfl⟩)
  rw [same]
  exact List.mem_append_right _ List.mem_cons_self

/-- A descriptor that is closed denotes nothing any more. -/
theorem count_filter_add_le {entries : List (Nat × Nat)} {descriptor x : Nat}
    (denotes : entries.lookup descriptor = some x) (n : Nat) :
    ((entries.filter (·.1 ≠ descriptor)).map Prod.snd).count n + (x :: spare).count n ≤
      (entries.map Prod.snd).count n + spare.count n := by
  induction entries with
  | nil => cases denotes
  | cons entry rest ih =>
    obtain ⟨key, y⟩ := entry
    by_cases here : descriptor = key
    · subst here
      rw [List.lookup_cons_self] at denotes
      obtain rfl := Option.some.inj denotes
      have fewer : ((rest.filter (·.1 ≠ descriptor)).map Prod.snd).count n ≤
          (rest.map Prod.snd).count n := (List.filter_sublist.map Prod.snd).count_le n
      simp only [List.filter_cons, ne_eq, not_true_eq_false, decide_false, Bool.false_eq_true, if_false,
        List.map_cons, List.count_cons] at fewer ⊢
      omega
    · rw [List.lookup_cons, beq_false_of_ne here] at denotes
      have others := ih denotes
      simp only [List.filter_cons, ne_eq, Ne.symm here, not_false_eq_true, decide_true, if_true,
        List.map_cons, List.count_cons] at others ⊢
      omega

/-! ## Holders -/

theorem holders_of_descriptions (same : after.descriptions = before.descriptions) (n : Nat) :
    after.holders n = before.holders n := by
  unfold holders
  rw [same]

theorem holders_of_le (bound : host.descriptions.length ≤ n) : host.holders n = 0 := by
  unfold holders
  rw [List.getElem?_eq_none bound]
  rfl

theorem holders_of_found {d : Description} (found : host.descriptions[n]? = some d) :
    host.holders n = d.holders := by
  unfold holders
  rw [found]
  rfl

/-- A description that is held is there. -/
theorem found_of_holders (held : 0 < host.holders n) :
    ∃ d, host.descriptions[n]? = some d ∧ host.holders n = d.holders := by
  cases found : host.descriptions[n]? with
  | none =>
    rw [holders_of_le (List.getElem?_eq_none_iff.1 found)] at held
    exact absurd held (Nat.lt_irrefl 0)
  | some d => exact ⟨d, rfl, holders_of_found found⟩

theorem holders_setDescription {d : Description} (found : host.descriptions[n]? = some d)
    (e : Description) (m : Nat) :
    (host.setDescription n e).holders m = if m = n then e.holders else host.holders m := by
  have bound := (List.getElem?_eq_some_iff.1 found).1
  unfold holders setDescription
  split
  · rename_i here
    rw [here, List.getElem?_set_self bound]
    rfl
  · rename_i other
    rw [List.getElem?_set_ne (Ne.symm other)]

theorem holders_release (host : Host) (n m : Nat) :
    (host.release n).holders m = if m = n then host.holders n - 1 else host.holders m := by
  unfold release
  split
  · rename_i d found
    rw [holders_setDescription found, holders_of_found found]
  · rename_i none
    split
    · rename_i here
      rw [here, holders_of_le (List.getElem?_eq_none_iff.1 none)]
    · rfl

theorem holders_describe (host : Host) (d : Description) (m : Nat) :
    (host.describe d).2.holders m =
      if m = host.descriptions.length then d.holders else host.holders m := by
  unfold holders Host.describe
  dsimp only
  split
  · rename_i here
    rw [here, List.getElem?_concat_length]
    rfl
  · rename_i other
    rcases Nat.lt_or_gt_of_ne other with old | beyond
    · rw [List.getElem?_append_left old]
    · have none : host.descriptions[m]? = none := List.getElem?_eq_none (Nat.le_of_lt beyond)
      rw [none, List.getElem?_eq_none (by rw [List.length_append]; exact beyond)]

/-! ## What is given up -/

/-- Processes get no descriptors.  Only the `freed` descriptions are given up, and what processes have
given up themselves. -/
structure Frees (freed : Nat → Prop) (before after : Host) : Prop where
  grasps : ∀ n, after.grasps n ≤ before.grasps n
  holders : ∀ n, ¬ freed n →
    before.holders n + after.grasps n ≤ after.holders n + before.grasps n

/-- Only processes give something up. -/
abbrev Balanced (before after : Host) : Prop := before.Frees (fun _ => False) after

namespace Frees

theorem of_processes (processes : after.processes = before.processes)
    (holders : ∀ n, ¬ freed n → before.holders n ≤ after.holders n) : before.Frees freed after where
  grasps n := Nat.le_of_eq (grasps_of_processes processes n)
  holders n kept := by
    rw [grasps_of_processes processes]
    exact Nat.add_le_add_right (holders n kept) _

theorem of_same (processes : after.processes = before.processes)
    (descriptions : after.descriptions = before.descriptions) : before.Frees freed after :=
  .of_processes processes fun n _ => Nat.le_of_eq (holders_of_descriptions descriptions n).symm

theorem refl (host : Host) : host.Frees freed host := .of_same rfl rfl

theorem trans {a b c : Host} (hab : a.Frees freed b) (hbc : b.Frees freed c) : a.Frees freed c where
  grasps n := Nat.le_trans (hbc.grasps n) (hab.grasps n)
  holders n kept := by
    have first := hab.holders n kept
    have second := hbc.holders n kept
    omega

theorem mono {more : Nat → Prop} (frees : before.Frees freed after) (weaker : ∀ n, freed n → more n) :
    before.Frees more after where
  grasps := frees.grasps
  holders n kept := frees.holders n fun was => kept (weaker n was)

/-- A process changes and has no more descriptors than before. -/
theorem setProcess (found : host.process? m = some p) (fewer : ∀ n, q.grasps n ≤ p.grasps n) :
    host.Frees freed (host.setProcess m q) where
  grasps n := by
    have changed := grasps_setProcess found n (q := q)
    have fewer := fewer n
    omega
  holders n _ := by
    have changed := grasps_setProcess found n (q := q)
    have fewer := fewer n
    show host.holders n + _ ≤ host.holders n + _
    omega

end Frees

theorem release_frees (host : Host) (n : Nat) : host.Frees (· = n) (host.release n) :=
  .of_processes (release_processes host n) fun m other =>
    Nat.le_of_eq (by rw [holders_release, if_neg other])

theorem describe_balanced (host : Host) (d : Description) : host.Balanced (host.describe d).2 :=
  .of_processes rfl fun n _ => by
    rw [holders_describe]
    split
    · rename_i here
      rw [here, holders_of_le (Nat.le_refl _)]
      exact Nat.zero_le _
    · exact Nat.le_refl _

theorem foldl_release_holders (entries : List (Nat × Nat)) (host : Host) (n : Nat) :
    host.holders n ≤ (entries.foldl (fun host d => host.release d.2) host).holders n +
      (entries.map Prod.snd).count n := by
  induction entries generalizing host with
  | nil => exact Nat.le_refl _
  | cons entry rest ih =>
    have released := ih (host.release entry.2)
    rw [holders_release] at released
    rw [List.foldl_cons, List.map_cons, List.count_cons]
    by_cases here : n = entry.2
    · rw [if_pos here] at released
      rw [if_pos (beq_iff_eq.2 here.symm)]
      rw [here] at released ⊢
      omega
    · rw [if_neg here] at released
      omega

/-- A process that ends gives up what it has. -/
theorem finish_balanced (host : Host) (n : Nat) (status : ExitStatus) :
    host.Balanced (host.finish n status) := by
  unfold finish
  split
  · exact .refl host
  · rename_i p found
    let between := p.descriptors.foldl (fun host d => host.release d.2) host
    have same : between.processes = host.processes := foldl_release_processes p.descriptors host
    have found' : between.process? n = some p := (congrArg (·[n]?) same).trans found
    let ended : Process := { p with activity := .ended status, descriptors := [], wakes := none }
    have changed (m : Nat) : (between.setProcess n ended).grasps m + p.grasps m = host.grasps m := by
      have changed := grasps_setProcess found' m (q := ended)
      rwa [grasps_of_processes same] at changed
    refine ⟨fun m => Nat.le_of_add_right_le (Nat.le_of_eq (changed m)), fun m _ => ?_⟩
    have released : host.holders m ≤ between.holders m + p.grasps m :=
      foldl_release_holders p.descriptors host m
    have share := changed m
    show host.holders m + (between.setProcess n ended).grasps m ≤ between.holders m + host.grasps m
    omega

theorem deliver_balanced (host : Host) (n : Nat) : host.Balanced (host.deliver n) := by
  unfold deliver
  split
  · exact finish_balanced host n _
  · exact .refl host

theorem Adjusts.balanced (adjusts : host.Adjusts n after) : host.Balanced after := by
  cases adjusts with
  | nothing => exact .refl host
  | process found kept =>
    exact .setProcess found fun m => Nat.le_of_eq (by unfold Process.grasps; rw [kept.descriptors])

theorem tryWait_balanced (host : Host) (n : Nat) : host.Balanced (host.tryWait n).2 :=
  (tryWait_adjusts host n).balanced

theorem send_balanced (host : Host) (n : Nat) (signal : Signal) :
    host.Balanced (host.send n signal) :=
  (send_adjusts host n signal).balanced

theorem AddsNode.balanced (opens : host.AddsNode n after) : host.Balanced after := by
  obtain ⟨files, node, appends, -, rfl⟩ := opens
  have changed : host.Balanced { host with files } := .of_same rfl rfl
  exact changed.trans (describe_balanced _ _)

end Host

end AlgorithmDriver
