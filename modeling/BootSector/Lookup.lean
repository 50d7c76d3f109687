import BootSector.RunSafety

/-!
# GetFATEntry as its caller sees it

On a table packed into FAT1 the routine is the function from an index to its
entry. Whatever the caller has in its registers, in the buffer and in `[Odd]`,
it finds the entry in `AX`, and its pointers and its memory in place.
-/

namespace BootSector.Lookup

open RealMode Bios Program Floppy Execution Assertion GetFATEntry RunSafety

variable {bios : Services} {failures : Nat → Nat} {disk : Disk} {entries : Nat → Nat}
  {index : Nat} {entry config : Config}

/-- Services that write to no memory but the buffers of reads. -/
structure Confined (bios : Services) : Prop where
  video : ∀ log machine address,
    (bios.video log machine).memory address = machine.memory address
  drive : ∀ log machine address, (machine.isRead → ¬machine.request.Covers address) →
    (bios.disk log machine).memory address = machine.memory address

theorem floppy_bios_confined (disk : Disk) (failures : Nat → Nat) :
    Confined (floppyBios disk failures) where
  video _ _ _ := rfl
  drive log machine address outside := by
    simp only [floppyBios]
    split_ifs with reads
    · exact if_neg (outside reads)
    · exact if_neg (outside reads)
    · rfl

/-- The routine has returned to its caller. Below the caller's stack pointer
the services may write as well; where they do not, seven words of the stack
are all that changes there. -/
structure Answered (bios : Services) (entries : Nat → Nat) (index : Nat)
    (entry config : Config) : Prop where
  fault : config.fault = false
  cs : config.machine.cs = 0#16
  ip : config.machine.ip = entry.machine.top
  sp : config.machine.sp = entry.machine.sp + 2#16
  ax : config.machine.ax = BitVec.ofNat 16 (entries index)
  bx : config.machine.bx = entry.machine.bx
  bp : config.machine.bp = entry.machine.bp
  ds : config.machine.ds = entry.machine.ds
  es : config.machine.es = entry.machine.es
  ss : config.machine.ss = entry.machine.ss
  above : ∀ address, entry.machine.sp.toNat ≤ address → address < 0xa0000 →
    address ≠ odd.toNat → ¬(0x8000 ≤ address ∧ address < 0x8400) →
      config.machine.memory address = entry.machine.memory address
  elsewhere : Confined bios → ∀ address,
    ¬(entry.machine.sp.toNat - 14 ≤ address ∧ address < entry.machine.sp.toNat) →
    address ≠ odd.toNat → ¬(0x8000 ≤ address ∧ address < 0x8400) →
      config.machine.memory address = entry.machine.memory address

/-- The routine's own writes, and the reads it issues, stay in its footprint. -/
theorem step_confined {floor : Nat} (confined : Confined bios) {address : Nat}
    (outside : ¬Footprint floor address) (good : Good floor .any config) :
    (step code bios config).machine.memory address = config.machine.memory address :=
  step_frame_of (good.safe config) outside (fun _ _ => confined.video ..)
    (fun _ _ uncovered => confined.drive _ _ _ uncovered)

theorem look_up (honours : Honours bios disk) (serves : Serves bios failures (fatRequest index))
    (called : Called 0 index entry) (small : index < 4577) :
    Reaches (step code bios) (Good (entry.machine.sp.toNat - 14) .any) entry (fun later =>
      (Confined bios → ∀ address, ¬Footprint (entry.machine.sp.toNat - 14) address →
        later.machine.memory address = entry.machine.memory address) ∧
      Returned disk index entry later) := by
  have room := called.room
  have lowest : Called (entry.machine.sp.toNat - 14) index entry :=
    { ready := called.ready, ip := called.ip, room := by omega, below := called.below
      ax := called.ax }
  have returns : Runs (step code bios) True (Good (entry.machine.sp.toNat - 14) .any) entry _ :=
    get_fat_entry honours (fun _ => serves) lowest small trivial
  refine Reaches.keep ?_ (fun _ _ _ => rfl) (returns.reaches trivial)
  intro later good kept confined address outside
  exact (step_confined confined outside good).trans (kept confined address outside)

/-- GetFATEntry inverts the packing, for entries in one sector and for those
with a byte in each of two, and its caller's pointers and memory are in place. -/
theorem get_fat_entry_inverts_packing (honours : Honours bios disk)
    (serves : Serves bios failures (fatRequest index))
    (small : ∀ index < 3072, entries index < 4096)
    (packed : ∀ byte < 4608, fat1 disk byte = Fat12.pack entries byte)
    (bound : index < 3072) (called : Called 0 index entry) :
    Reaches (step code bios) (fun config => config.fault = false) entry
      (Answered bios entries index entry) := by
  have entryOf : Fat12.entry (fat1 disk) index = entries index :=
    packed_entry packed bound (small index bound)
  refine (look_up honours serves called (by omega)).mono (fun _ good => good.1) ?_
  rintro later ⟨kept, returned⟩
  have above : ∀ address, entry.machine.sp.toNat ≤ address → address < 0xa0000 →
      address ≠ odd.toNat → ¬(0x8000 ≤ address ∧ address < 0x8400) →
        later.machine.memory address = entry.machine.memory address :=
    fun address lower upper other outside => returned.frame address lower upper other outside
  exact
    { fault := returned.fault
      cs := returned.cs
      ip := by rw [returned.ip, Machine.top, called.ready.ss]
      sp := returned.sp
      ax := by rw [returned.ax, entryOf]
      bx := returned.bx
      bp := returned.bp
      ds := returned.ds.trans called.ready.ds.symm
      es := returned.es
      ss := returned.ss.trans called.ready.ss.symm
      above := above
      elsewhere := fun confined address stack other outside => by
        have below := called.below
        by_cases own : entry.machine.sp.toNat ≤ address ∧ address < 0xa0000
        · exact above address own.1 own.2 other outside
        · -- below the stack, or beyond conventional memory
          refine kept confined address ?_
          simp only [Footprint]
          omega }

/-- The call for entry 341, at bytes 511 and 512 of the table. -/
def straddling : Config :=
  { Start.powerOn fun _ => 0 with
    machine := { (Start.powerOn fun _ => 0).machine with
      ip := getFATEntry, sp := 0x7bfc#16, ax := 341#16 } }

theorem straddling_called : Called 0 341 straddling where
  ready :=
    { fault := rfl, cs := rfl, ds := rfl, ss := rfl
      intact := (Start.power_on_entry fun _ => 0).intact }
  ip := rfl
  room := by decide
  below := by decide
  ax := rfl

theorem straddling_entry_answered :
    Confined (floppyBios (formatted 2 fun index => index) fun _ => 0) ∧
    Reaches (step code (floppyBios (formatted 2 fun index => index) fun _ => 0))
      (fun config => config.fault = false) straddling
      (Answered (floppyBios (formatted 2 fun index => index) fun _ => 0) (fun index => index) 341
        straddling) :=
  ⟨floppy_bios_confined _ _,
    get_fat_entry_inverts_packing (floppy_bios_honours _ _)
      (floppy_bios_recovers _ _ _ (fat_request_on_disk (by decide)))
      (fun _ bound => lt_trans bound (by decide)) (formatted_packed 2 _) (by decide)
      straddling_called⟩

end BootSector.Lookup
