import BootSector.Bootstrap
import BootSector.Session
import BootSector.Tables

/-!
# Booting what has been written

A bootstrap after any calls of the diskette service: the boot goes as the root
directory and FAT1 say that the calls have left, the sectors written last.
-/

namespace BootSector.Rewritten

open RealMode Bios Extents Program Floppy FloppyController Diskette Session Emulator Bootstrap

variable {env : Environment} {disk : Disk} {devices devices' : Devices} {machines : List Machine}
  {replies : List Reply} {writeProtected : Bool} {post post' : Post} {seqNr : Word} {turns : Nat}

section Boot

theorem agree_tables {content content' : Disk} (agree : Agree (512 * 2880) content content') :
    Tables.SameTables content' content :=
  ⟨fun _ _ => agree _ (by omega), fun _ _ => agree _ (by omega)⟩

/-- The boot on what a run of calls has left on the diskette, when its turn
comes. -/
theorem rewritten_outcome_iff (ready : ∀ content, Ready env content)
    (holding : Holding writeProtected disk devices.fdc)
    (addressed : ∀ machine ∈ machines, Addressed machine)
    (ran : session (env.platform.cmos 0x10) devices machines = some (replies, devices'))
    (image : ∀ index < 512, written (writes machines replies) disk index = imageByte index)
    (left : post.devices.fdc = devices'.fdc) (listed : Listed post.devices.memory)
    (tried : (Stage.next env)^[turns] (int19 post) = .trying seqNr post')
    (turn : (chooseDevice env seqNr post').1 = some 1) : ∃ content after,
    Agree (512 * 2880) content (written (writes machines replies) disk) ∧
      (Stage.next env)^[turns + 1] (int19 post) = .left 0 0x7c00 0 after ∧
      ∀ outcome, Realised (trace fetchingBoot env.platform (handOver env 0 0x7c00 0 after)
        after.drive) content outcome ↔
          Outcomes.bootOutcome (written (writes machines replies) disk) = outcome := by
  obtain ⟨content, held, agree⟩ :=
    session_holds (ready disk).fitted.cmos holding addressed ran
  have posted : Posted content post := ⟨⟨writeProtected, left ▸ held⟩, listed⟩
  have same : ∀ index < 512, content index = imageByte index := fun index bound =>
    (agree index (by omega)).trans (image index bound)
  obtain ⟨after, jumps, rests, entered⟩ :=
    image_entered (ready content) posted tried turn same
  refine ⟨content, after, agree, jumps, fun outcome => ?_⟩
  rw [realised_iff (ready content).fitted entered rests, (agree_tables agree).boot_outcome]

end Boot

section Instance

def postAfter (reply : Reply) : Post :=
  ⟨{ (plainPost PowerOn.bootImg).devices with fdc := reply.devices.fdc }, ""⟩

/-- Twenty data sectors are written over, and the program boots. -/
theorem written_boot_img : ∃ reply content after,
    Agree (512 * 2880) content
      (written (writes [transferMachine 3 20 0 1 17] [reply]) PowerOn.bootImg) ∧
    (Stage.next plainEnvironment)^[0 + 1] (int19 (postAfter reply)) =
      .left 0 0x7c00 0 after ∧
    ∀ outcome, Realised (trace fetchingBoot plainEnvironment.platform
        (handOver plainEnvironment 0 0x7c00 0 after) after.drive) content outcome ↔
      Outcomes.bootOutcome
        (written (writes [transferMachine 3 20 0 1 17] [reply]) PowerOn.bootImg) = outcome := by
  have holding := idle_devices_holding PowerOn.bootImg fun _ => 0
  have addressed : Addressed (transferMachine 3 20 0 1 17) :=
    ⟨by decide, fun _ => twenty_buffered 3⟩
  obtain ⟨reply, ran, stored⟩ := write_session (plain_ready PowerOn.bootImg).fitted.cmos holding
    addressed (by decide) (twenty_placed 3)
  have beside : ∀ index < 512,
      written (writes [transferMachine 3 20 0 1 17] [reply]) PowerOn.bootImg index =
        imageByte index := by
    intro index bound
    rw [stored]
    have far : 512 ≤ (extent (transferMachine 3 20 0 1 17)
        (transferMachine 3 20 0 1 17).memory).first := by decide
    exact (replace_outside (by omega)).trans (if_pos bound)
  have tried : (Stage.next plainEnvironment)^[0] (int19 (postAfter reply)) =
      .trying 0 ((postAfter reply).setIpl iplSequenceOffset 0) := rfl
  have turn : (chooseDevice plainEnvironment 0
      ((postAfter reply).setIpl iplSequenceOffset 0)).1 = some 1 := plain_turn rfl
  obtain ⟨content, after, result⟩ := rewritten_outcome_iff plain_ready holding
    (fun machine listed => List.mem_singleton.mp listed ▸ addressed) ran beside rfl
    (init_boot_vectors_listed _) tried turn
  exact ⟨reply, content, after, result⟩

end Instance

end BootSector.Rewritten
