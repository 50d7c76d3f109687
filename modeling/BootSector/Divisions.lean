import BootSector.FileLoading

/-!
# Which disks raise a divide error

All that is divided comes from the directory entry's first cluster or from the
table. Entries of the table are small enough for each of the divisions; a
first cluster is if it is at most 4576.
-/

namespace BootSector.Divisions

open RealMode Bios Program Floppy Execution Assertion Loader Refinement LoadFile

variable {bios : Services} {disk : Disk} {entry : Config} {file : Nat}

/-- No divide error has been raised or is due, and the sum in `AX` at
`GoOnLoadingFile` is that of the cluster on the stack and 31 in full. -/
structure DivisionsFit (config : Config) : Prop where
  fault : config.fault = false
  due : ¬Faulting config
  sum : config.machine.ip = goOnLoadingFile →
    config.machine.ax.toNat = config.machine.top.toNat + 31

theorem small_fits (honours : Honours bios disk) (entered : Start.Entry entry)
    (small : ∀ file, FirstLoader disk file → firstCluster disk file ≤ 4576) :
    Forever (step code bios) DivisionsFit entry := by
  have permits : ∀ position, Permits ⟨fun _ _ => True, fun cluster => cluster.toNat ≤ 4576⟩
      (phaseAt disk position) := by
    refine permits_clusters (fun file count found => ?_)
    have bound := file_cluster_small (Nat.lt_succ_of_le (small file found)) count
    simp only [BitVec.toNat_ofNat]
    omega
  have sound : ∀ position, phaseAt disk position ≠ .faulted := by
    intro position phase
    have valid := phase_at_valid disk position
    rw [phase] at valid
    obtain ⟨file, found, large⟩ := valid
    have bound := small file found
    omega
  refine (run_sound honours entered permits sound).mono ?_
  rintro config ⟨fault, ⟨_, _, loading⟩, line⟩
  constructor
  · exact fault
  · rintro ⟨_, instr, next, fetched, faults⟩
    rw [(line instr next fetched).1] at faults
    cases faults
  · intro place
    obtain ⟨_, _, ax, _, _, cluster⟩ := loading place
    rw [ax]
    bv_omega

theorem first_reached (honours : Honours bios disk) (succeeds : Succeeds bios)
    (entered : Start.Entry entry) (found : FirstLoader disk file) :
    ∃ count, AtCluster (firstCluster disk file) 0 ((step code bios)^[count] entry) := by
  have reaches := clean_run_reaches Request.OnDisk (file / 16 + 2) honours entered
    (fun _ before => search_running found before) succeeds
    (fun _ before read listed => (search_reads found before read listed).1)
  obtain ⟨count, ax, dx, sim, _⟩ := reaches.exists_iterate
  exact ⟨count, (sim.place_at (first_phase found)).2⟩

/-- Of the clusters that are too large most end in a divide error at once. -/
theorem large_faults (honours : Honours bios disk) (succeeds : Succeeds bios)
    (entered : Start.Entry entry) (found : FirstLoader disk file)
    (large : 4577 ≤ firstCluster disk file) (fits : firstCluster disk file < 65505) :
    ∃ count, Faulting ((step code bios)^[count] entry) := by
  obtain ⟨count, atCluster⟩ := first_reached honours succeeds entered found
  have sector : 4608 ≤ dataSector (firstCluster disk file) := by
    simp only [dataSector]
    omega
  have faults : Advances (step code bios) True (Good 0x7bf0 .any) _ _ :=
    load_faults honours trivial atCluster sector
  obtain ⟨more, faulting, _⟩ := (faults.runs.reaches trivial).exists_iterate
  exact ⟨more + count, by rwa [Function.iterate_add_apply]⟩

/-- The last 31 wrap the sum. -/
theorem wrapped_sum (honours : Honours bios disk) (succeeds : Succeeds bios)
    (entered : Start.Entry entry) (found : FirstLoader disk file)
    (wraps : 65505 ≤ firstCluster disk file) :
    ∃ count, ¬DivisionsFit ((step code bios)^[count] entry) := by
  obtain ⟨count, atCluster⟩ := first_reached honours succeeds entered found
  refine ⟨count, fun fits => ?_⟩
  have sum := fits.sum atCluster.ip
  have word : firstCluster disk file < 65536 := file_cluster_word disk file 0
  rw [atCluster.ax, Machine.top, atCluster.ready.ss, atCluster.sp, atCluster.top] at sum
  bv_omega

theorem large_misfits (honours : Honours bios disk) (succeeds : Succeeds bios)
    (entered : Start.Entry entry) (found : FirstLoader disk file)
    (large : 4577 ≤ firstCluster disk file) :
    ∃ count, ¬DivisionsFit ((step code bios)^[count] entry) := by
  rcases Nat.lt_or_ge (firstCluster disk file) 65505 with below | wraps
  · obtain ⟨count, faulting⟩ := large_faults honours succeeds entered found large below
    exact ⟨count, fun fits => fits.due faulting⟩
  · exact wrapped_sum honours succeeds entered found wraps

/-- No divide error and no wrapped sum, exactly if the loader's first cluster
is at most 4576. -/
theorem divisions_fit_iff (disk : Disk) :
    (∀ bios entry, Honours bios disk → Start.Entry entry →
      Forever (step code bios) DivisionsFit entry) ↔
      ∀ file, FirstLoader disk file → firstCluster disk file ≤ 4576 := by
  constructor
  · intro fits file found
    by_contra large
    obtain ⟨count, misfits⟩ := large_misfits (floppy_bios_honours disk fun _ => 0)
      (floppy_bios_succeeds disk) (Start.power_on_entry fun _ => 0) found (by omega)
    exact misfits (fits _ _ (floppy_bios_honours disk _) (Start.power_on_entry _) count)
  · intro small bios entry honours entered
    exact small_fits honours entered small

/-- First cluster 5000: the sector number 5031 divided by 18 does not fit `AL`. -/
theorem cluster_5000_faults :
    firstCluster (formatted 5000 fun _ => 0xfff) 0 = 5000 ∧
      ∃ count, Faulting ((step code (floppyBios (formatted 5000 fun _ => 0xfff)
        fun _ => 0))^[count] (Start.powerOn fun _ => 0)) := by
  have first : firstCluster (formatted 5000 fun _ => 0xfff) 0 = 5000 :=
    formatted_first_cluster _ (by decide)
  refine ⟨first, ?_⟩
  apply large_faults (floppy_bios_honours _ _) (floppy_bios_succeeds _) (Start.power_on_entry _)
    (formatted_first_loader _ _)
  · rw [first]
    decide
  · rw [first]
    decide

end BootSector.Divisions
