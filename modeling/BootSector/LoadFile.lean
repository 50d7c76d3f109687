import BootSector.GetFATEntry
import BootSector.Search

/-!
# Load the file

From `FileNameFound` the routine takes the first cluster off the directory
entry; each turn of `GoOnLoadingFile` shows a dot, reads one sector and looks
up the next cluster. The cluster at hand is the one word on the stack.
-/

namespace BootSector.LoadFile

open RealMode Bios Program Floppy Execution Assertion

attribute [local simp] Walk step code lineAt foundLines loadLines perform resume Machine.faults
  Machine.execute Machine.push Machine.top Machine.load8 Machine.store8 Machine.load16
  Machine.store16 Machine.value8 Machine.value16 Machine.reg8 Machine.setReg8 Machine.reg16
  Machine.setReg16 Machine.segment Machine.setSegment Machine.offset Machine.withFlags
  Machine.aluResult Machine.aluCarry Machine.stores Machine.stored8 Machine.stored16
  Machine.lowered Machine.asks Instr.interrupts Good Ended LabelSafe LineSafe

attribute [local simp] start searchInRootDirectoryBegin searchForLoaderBin noLoaderBin
  fileNameFound goOnLoadingFile fileLoaded readOneSector getFATEntry bpbBytesPerSec
  baseOfStack baseOfLoader offsetOfLoader rootDirectorySectors sectorBalance

attribute [-simp] BitVec.toNat_add BitVec.toNat_sub

variable {floor : Nat} {allowed : Allowed} {bios : Services}
  {disk : Disk} {total : Prop} {failures : Nat → Nat}

section Walks

variable {config : Config} {after : Config → Prop}

theorem take_cluster (cluster : Word) (fault : config.fault = false) (cs : config.machine.cs = 0#16)
    (es : config.machine.es = 0#16) (ss : config.machine.ss = 0#16)
    (ip : config.machine.ip = fileNameFound) (sp : config.machine.sp = baseOfStack)
    (low : floor ≤ 0x7bfe)
    (word : config.machine.memory.word 0#16 ((config.machine.di &&& 0xffe0#16) + 0x1a#16) = cluster)
    (final : ∀ carry zero, after
      { config with
        machine := { config.machine with
          ip := 0x7cfc#16
          ax := 14#16
          cx := cluster
          di := (config.machine.di &&& 0xffe0#16) + 0x1a#16
          sp := 0x7bfe#16
          carry := carry
          zero := zero
          memory := config.machine.memory.setWord 0#16 0x7bfe#16 cluster } }) :
    Walk (step code bios) (Good floor allowed) after 5 config := by
  obtain ⟨⟨ax, bx, cx, dx, si, di, bp, spW, espHigh, csW, ds, esW, ssW, ipW, carry, zero,
    direction, memory⟩, faultB, call, log⟩ := config
  simp only at fault cs es ss ip sp word final
  subst fault cs es ss ip sp
  simp [word]
  exact ⟨⟨⟨.inl ⟨low, by decide⟩, .inl ⟨by omega, by decide⟩⟩, low⟩, final _ _⟩

theorem point_segment (fault : config.fault = false) (cs : config.machine.cs = 0#16)
    (ip : config.machine.ip = 0x7cfc#16) (ax : config.machine.ax = 14#16)
    (cx : config.machine.cx = cluster)
    (final : ∀ carry zero, after
      { config with
        machine := { config.machine with
          ip := goOnLoadingFile
          ax := cluster + 31#16
          bx := 0#16
          cx := cluster + 31#16
          es := baseOfLoader
          carry := carry
          zero := zero } }) :
    Walk (step code bios) (Good floor allowed) after 6 config := by
  obtain ⟨⟨axW, bx, cxW, dx, si, di, bp, sp, espHigh, csW, ds, es, ss, ipW, carry, zero,
    direction, memory⟩, faultB, call, log⟩ := config
  simp only at fault cs ip ax cx final
  subst fault cs ip ax cx
  have sum : cxW + 14#16 + 17#16 = cxW + 31#16 := add_assoc ..
  simp [sum]
  exact final _ _

def dotting (machine : Machine) : Machine :=
  { machine with
    ip := 0x7d13#16
    ax := 0x0e2e#16
    bx := wordOf (highByte machine.bx) 0x0f#8
    sp := 0x7bfa#16
    memory := (machine.memory.setWord 0#16 0x7bfc#16 machine.ax).setWord 0#16 0x7bfa#16 machine.bx }

theorem show_dot (fault : config.fault = false) (cs : config.machine.cs = 0#16)
    (ss : config.machine.ss = 0#16) (es : config.machine.es = baseOfLoader)
    (ip : config.machine.ip = goOnLoadingFile) (sp : config.machine.sp = 0x7bfe#16)
    (low : floor ≤ 0x7bfa)
    (sum : config.machine.ax = config.machine.memory.word 0#16 0x7bfe#16 + 31#16)
    (aligned : config.machine.bx.toNat % 512 = 0)
    (admitted : allowed.cluster (config.machine.memory.word 0#16 0x7bfe#16))
    (final : after
      { config with
        machine := resume config.machine (bios.video config.log (dotting config.machine)) 0x7d15#16
        log := config.log ++
          [.video 0x0e2e#16 (wordOf (highByte config.machine.bx) 0x0f#8)] }) :
    Walk (step code bios) (Good floor allowed) after 6 config := by
  obtain ⟨⟨ax, bx, cx, dx, si, di, bp, spW, espHigh, csW, ds, esW, ssW, ipW, carry, zero,
    direction, memory⟩, faultB, call, log⟩ := config
  simp only at fault cs ss es ip sp sum aligned admitted final
  subst fault cs ss es ip
  have dot : wordOf 0x0e#8 0x2e#8 = 0x0e2e#16 := by decide
  simp only [dotting] at final
  simp [sp, aligned, dot]
  exact ⟨⟨⟨sum, admitted⟩, ⟨.inl ⟨by omega, by decide⟩, .inl ⟨by omega, by decide⟩⟩, by omega⟩,
    ⟨⟨.inl ⟨low, by decide⟩, .inl ⟨by omega, by decide⟩⟩, low⟩, by simpa using final⟩

theorem call_read (ax bx : Word) (fault : config.fault = false) (cs : config.machine.cs = 0#16)
    (ss : config.machine.ss = 0#16) (ip : config.machine.ip = 0x7d15#16)
    (sp : config.machine.sp = 0x7bfa#16) (low : floor ≤ 0x7bfc)
    (savedBx : config.machine.memory.word 0#16 0x7bfa#16 = bx)
    (savedAx : config.machine.memory.word 0#16 0x7bfc#16 = ax)
    (final : after
      { config with
        machine := { config.machine with
          ip := readOneSector
          ax := ax
          bx := bx
          cx := wordOf (highByte config.machine.cx) 1#8
          sp := 0x7bfc#16
          memory := config.machine.memory.setWord 0#16 0x7bfc#16 0x7d1c#16 }
        call := ⟨readOneSector, 0x7d1c#16, ax⟩ }) :
    Walk (step code bios) (Good floor allowed) after 4 config := by
  obtain ⟨⟨axW, bxW, cx, dx, si, di, bp, spW, espHigh, csW, ds, es, ssW, ipW, carry, zero,
    direction, memory⟩, faultB, call, log⟩ := config
  simp only at fault cs ss ip sp savedBx savedAx final
  subst fault cs ss ip sp
  simp [savedBx, savedAx]
  exact ⟨⟨⟨.inl ⟨low, by decide⟩, .inl ⟨by omega, by decide⟩⟩, low⟩, final⟩

theorem call_fat (fault : config.fault = false) (cs : config.machine.cs = 0#16)
    (ss : config.machine.ss = 0#16) (ip : config.machine.ip = 0x7d1c#16)
    (sp : config.machine.sp = 0x7bfe#16) (low : floor ≤ 0x7bfe)
    (saved : config.machine.memory.word 0#16 0x7bfe#16 = cluster)
    (final : after
      { config with
        machine := { config.machine with
          ip := getFATEntry
          ax := cluster
          sp := 0x7bfe#16
          memory := config.machine.memory.setWord 0#16 0x7bfe#16 0x7d20#16 }
        call := ⟨getFATEntry, 0x7d20#16, cluster⟩ }) :
    Walk (step code bios) (Good floor allowed) after 2 config := by
  obtain ⟨⟨ax, bx, cx, dx, si, di, bp, spW, espHigh, csW, ds, es, ssW, ipW, carry, zero,
    direction, memory⟩, faultB, call, log⟩ := config
  simp only at fault cs ss ip sp saved final
  subst fault cs ss ip sp
  simp [saved]
  exact ⟨⟨⟨.inl ⟨low, by decide⟩, .inl ⟨by omega, by decide⟩⟩, low⟩, final⟩

theorem finish (fault : config.fault = false) (cs : config.machine.cs = 0#16)
    (ip : config.machine.ip = 0x7d20#16) (last : config.machine.ax = 0xfff#16)
    (final : ∀ carry zero, after
      { config with
        machine := { config.machine with ip := fileLoaded, carry := carry, zero := zero } }) :
    Walk (step code bios) (Good floor allowed) after 2 config := by
  obtain ⟨⟨ax, bx, cx, dx, si, di, bp, sp, espHigh, csW, ds, es, ss, ipW, carry, zero,
    direction, memory⟩, faultB, call, log⟩ := config
  simp only at fault cs ip last final
  subst fault cs ip last
  simp
  exact final _ _

theorem next_cluster (fault : config.fault = false) (cs : config.machine.cs = 0#16)
    (ds : config.machine.ds = 0#16) (ss : config.machine.ss = 0#16)
    (ip : config.machine.ip = 0x7d20#16) (sp : config.machine.sp = baseOfStack)
    (low : floor ≤ 0x7bfe) (more : config.machine.ax ≠ 0xfff#16)
    (bytes : config.machine.memory.word 0#16 bpbBytesPerSec = 512#16)
    (final : ∀ carry zero, after
      { config with
        machine := { config.machine with
          ip := goOnLoadingFile
          ax := config.machine.ax + 31#16
          bx := config.machine.bx + 512#16
          dx := 14#16
          sp := 0x7bfe#16
          carry := carry
          zero := zero
          memory := config.machine.memory.setWord 0#16 0x7bfe#16 config.machine.ax } }) :
    Walk (step code bios) (Good floor allowed) after 8 config := by
  obtain ⟨⟨ax, bx, cx, dx, si, di, bp, spW, espHigh, csW, dsW, es, ssW, ipW, carry, zero,
    direction, memory⟩, faultB, call, log⟩ := config
  simp only at fault cs ds ss ip sp more bytes final
  subst fault cs ds ss ip sp
  have sum : ax + 14#16 + 17#16 = ax + 31#16 := add_assoc ..
  have kept : (memory.setWord 0#16 0x7bfe#16 ax).word 0#16 0x7c0b#16 = 512#16 :=
    (Memory.word_set_word_apart _ (by decide) (by decide) (by decide)).trans bytes
  have differs : ¬ax - 0xfff#16 = 0#16 := fun same => more (sub_eq_zero.mp same)
  simp [differs, sum, kept]
  exact ⟨⟨⟨.inl ⟨low, by decide⟩, .inl ⟨by omega, by decide⟩⟩, low⟩, final _ _⟩

end Walks

section Turn

variable {cluster count : Nat} {config : Config}

structure AtCluster (cluster count : Nat) (config : Config) : Prop where
  ready : Ready config
  ip : config.machine.ip = goOnLoadingFile
  sp : config.machine.sp = 0x7bfe#16
  es : config.machine.es = baseOfLoader
  ax : config.machine.ax = BitVec.ofNat 16 cluster + 31#16
  bx : config.machine.bx = BitVec.ofNat 16 (512 * count)
  top : config.machine.memory.word 0#16 0x7bfe#16 = BitVec.ofNat 16 cluster

structure AtEnd (count : Nat) (config : Config) : Prop where
  ready : Ready config
  ip : config.machine.ip = fileLoaded
  sp : config.machine.sp = baseOfStack
  es : config.machine.es = baseOfLoader
  bx : config.machine.bx = BitVec.ofNat 16 (512 * count)

/-- The sum taken for a cluster is 16 bits wide. -/
def dataSector (cluster : Nat) : Nat := (cluster + 31) % 65536

def dataRequest (cluster count : Nat) : Request :=
  .ofLba 1 (dataSector cluster) baseOfLoader (BitVec.ofNat 16 (512 * count))

def dataCall (cluster : Nat) : Call :=
  ⟨readOneSector, 0x7d1c#16, BitVec.ofNat 16 (dataSector cluster)⟩

/-- The teletype call before a read. `BH`, the page, is the high byte of the
load offset. -/
def dotEvent (count : Nat) : Event :=
  .video 0x0e2e#16 (wordOf (highByte (BitVec.ofNat 16 (512 * count))) 0x0f#8)

theorem sector_word (cluster : Nat) :
    BitVec.ofNat 16 cluster + 31#16 = BitVec.ofNat 16 (dataSector cluster) := by
  apply BitVec.eq_of_toNat_eq
  rw [BitVec.toNat_add]
  simp [dataSector]

theorem data_request_start (cluster count : Nat) :
    (dataRequest cluster count).start = 0x10000 + 512 * count % 65536 := by
  simp [dataRequest, Request.ofLba, Request.start, physical]

theorem data_request_size (cluster count : Nat) : (dataRequest cluster count).size = 512 := rfl

theorem data_request_covers (cluster count address : Nat) :
    (dataRequest cluster count).Covers address ↔
      0x10000 + 512 * count % 65536 ≤ address ∧
        address < 0x10000 + 512 * count % 65536 + 512 := by
  rw [Request.Covers, data_request_start, data_request_size]

theorem data_request_on_disk (within : dataSector cluster < 2880) :
    (dataRequest cluster count).OnDisk := by
  refine ⟨(Request.well_formed_iff _).mpr ?_, ?_⟩
  · simp [dataRequest, Request.ofLba, Request.size, Request.start, physical]
    omega
  · simp only [dataRequest, Request.lba_of_lba]
    simp only [Request.ofLba]
    omega

/-- ReadOneSector is called. The dot has cost the turn nothing: load pointer,
sector number and the cluster on the stack are those it began with. -/
structure Asking (entry config : Config) : Prop where
  fault : config.fault = false
  cs : config.machine.cs = 0#16
  ip : config.machine.ip = readOneSector
  ax : config.machine.ax = entry.machine.ax
  bx : config.machine.bx = entry.machine.bx
  cl : lowByte config.machine.cx = 1#8
  ds : config.machine.ds = entry.machine.ds
  es : config.machine.es = entry.machine.es
  ss : config.machine.ss = 0#16
  sp : config.machine.sp = 0x7bfc#16
  call : config.call = ⟨readOneSector, 0x7d1c#16, entry.machine.ax⟩
  log : config.log =
    entry.log ++ [.video 0x0e2e#16 (wordOf (highByte entry.machine.bx) 0x0f#8)]
  back : config.machine.memory.word 0#16 0x7bfc#16 = 0x7d1c#16
  top : config.machine.memory.word 0#16 0x7bfe#16 = entry.machine.memory.word 0#16 0x7bfe#16
  frame : ∀ address, 0x7bfe ≤ address → address < 0xa0000 →
    config.machine.memory address = entry.machine.memory address

/-- The dot is shown, whatever the BIOS does to the registers it may use. -/
theorem reach_call (honours : Honours bios disk) (room : floor ≤ 0x7bfa)
    (fault : config.fault = false) (cs : config.machine.cs = 0#16)
    (ip : config.machine.ip = goOnLoadingFile) (labels : LabelSafe allowed config) :
    Advances (step code bios) total (Good floor allowed) config (Asking config) := by
  obtain ⟨ss, sp, sum, es, aligned, admitted⟩ := labels.2.2 ip
  rw [Machine.top, ss, sp] at sum admitted
  have keeps := honours.video config.log (dotting config.machine)
  have owned : ∀ address, 0x7bfa ≤ address → address < 0xa0000 →
      (bios.video config.log (dotting config.machine)).memory address =
        (dotting config.machine).memory address := by
    intro address above under
    refine keeps.memory address ⟨?_, under⟩
    simpa [dotting, ss] using above
  have word : ∀ offset : Word, 0x7bfa ≤ offset.toNat → offset.toNat < 0x7c00 →
      (bios.video config.log (dotting config.machine)).memory.word 0#16 offset =
        (dotting config.machine).memory.word 0#16 offset := by
    intro offset lower upper
    apply Memory.word_congr
    · simp only [physical_zero]
      exact owned _ lower (by omega)
    · simp only [physical_zero]
      exact owned _ (by bv_omega) (by bv_omega)
  have above : ∀ address, 0x7bfe ≤ address →
      (dotting config.machine).memory address = config.machine.memory address := by
    intro address lower
    simp only [dotting, Memory.set_word_apply]
    rw [if_neg, if_neg, if_neg, if_neg] <;> simp <;> omega
  apply Runs.advance
  apply show_dot fault cs ss es ip sp room sum aligned admitted
  apply Runs.walk 4
  apply call_read config.machine.ax config.machine.bx
  · exact fault
  · exact cs
  · exact keeps.ss.trans ss
  · rfl
  · exact keeps.sp
  · omega
  · refine (word _ (by decide) (by decide)).trans ?_
    exact Memory.word_set_word ..
  · refine (word _ (by decide) (by decide)).trans ?_
    rw [dotting, Memory.word_set_word_apart _ (by decide) (by decide) (by decide)]
    exact Memory.word_set_word ..
  apply Runs.here
  have frame : ∀ address, 0x7bfe ≤ address → address < 0xa0000 →
      (bios.video config.log (dotting config.machine)).memory.setWord 0#16 0x7bfc#16 0x7d1c#16
        address = config.machine.memory address := by
    intro address lower upper
    rw [Memory.set_word_apply, if_neg, if_neg, owned _ (by omega) upper, above _ lower] <;>
      simp <;> omega
  exact
    { fault := fault, cs := cs, ip := rfl, ax := rfl, bx := rfl, cl := low_byte_word_of ..
      ds := keeps.ds
      es := keeps.es
      ss := keeps.ss.trans ss
      sp := rfl, call := rfl, log := rfl
      back := Memory.word_set_word ..
      top := by
        apply Memory.word_congr
        · exact frame 0x7bfe (by omega) (by omega)
        · exact frame 0x7bff (by omega) (by omega)
      frame := frame }

structure Dotted (cluster count : Nat) (entry config : Config) : Prop where
  ready : Ready config
  ip : config.machine.ip = readOneSector
  ax : config.machine.ax = BitVec.ofNat 16 (dataSector cluster)
  bx : config.machine.bx = BitVec.ofNat 16 (512 * count)
  cl : lowByte config.machine.cx = 1#8
  es : config.machine.es = baseOfLoader
  sp : config.machine.sp = 0x7bfc#16
  call : config.call = dataCall cluster
  log : config.log = entry.log ++ [dotEvent count]
  back : config.machine.memory.word 0#16 0x7bfc#16 = 0x7d1c#16
  top : config.machine.memory.word 0#16 0x7bfe#16 = BitVec.ofNat 16 cluster
  frame : ∀ address, 0x7c00 ≤ address → address < 0xa0000 →
    config.machine.memory address = entry.machine.memory address

theorem AtCluster.labels (atCluster : AtCluster cluster count config)
    (admitted : allowed.cluster (BitVec.ofNat 16 cluster)) : LabelSafe allowed config := by
  obtain ⟨ready, ip, sp, es, ax, bx, top⟩ := atCluster
  have word : config.machine.top = BitVec.ofNat 16 cluster := by
    rw [Machine.top, ready.ss, sp, top]
  have aligned : config.machine.bx.toNat % 512 = 0 := by
    rw [bx, BitVec.toNat_ofNat]
    omega
  refine ⟨fun scan => ?_, fun done => ?_, fun _ => ⟨ready.ss, sp, ?_, es, aligned, ?_⟩⟩
  · rw [ip] at scan
    exact absurd scan (by decide)
  · rw [ip] at done
    exact absurd done (by decide)
  · rw [word, ax]
  · rwa [word]

theorem reach_read (honours : Honours bios disk) (room : floor ≤ 0x7bfa)
    (admitted : allowed.cluster (BitVec.ofNat 16 cluster))
    (atCluster : AtCluster cluster count config) :
    Advances (step code bios) total (Good floor allowed) config (Dotted cluster count config) := by
  have ready := atCluster.ready
  apply (reach_call honours room ready.fault ready.cs atCluster.ip
    (atCluster.labels admitted)).mono (fun _ => id)
  intro later asking
  have sector : config.machine.ax = BitVec.ofNat 16 (dataSector cluster) := by
    rw [atCluster.ax, sector_word]
  exact
    { ready :=
        { fault := asking.fault, cs := asking.cs, ds := asking.ds.trans ready.ds, ss := asking.ss
          intact := ready.intact.of_agree (fun address lower upper _ =>
            asking.frame address (by omega) (by omega)) }
      ip := asking.ip
      ax := asking.ax.trans sector
      bx := asking.bx.trans atCluster.bx
      cl := asking.cl
      es := asking.es.trans atCluster.es
      sp := asking.sp
      call := by rw [asking.call, sector, dataCall]
      log := by rw [asking.log, atCluster.bx, dotEvent]
      back := asking.back
      top := asking.top.trans atCluster.top
      frame := fun address lower upper => asking.frame address (by omega) upper }

theorem Dotted.called {entry : Config} (room : floor + 6 ≤ 0x7bfc)
    (small : dataSector cluster < 4608) (dotted : Dotted cluster count entry config) :
    ReadOneSector.Called floor 1 (dataSector cluster) config where
  ready := dotted.ready
  ip := dotted.ip
  room := by
    rw [dotted.sp]
    exact room
  below := by
    rw [dotted.sp]
    decide
  ax := dotted.ax
  small := small
  cl := dotted.cl
  counted := .inl rfl
  track := by omega
  buffer := by
    refine .inr ⟨dotted.es, rfl, ?_⟩
    rw [dotted.bx, BitVec.toNat_ofNat]
    omega

theorem Dotted.asked {entry : Config} (dotted : Dotted cluster count entry config) :
    ReadOneSector.asked 1 (dataSector cluster) config = dataRequest cluster count := by
  rw [ReadOneSector.asked, dotted.es, dotted.bx, dataRequest]

structure Loaded (disk : Disk) (cluster count : Nat) (entry config : Config) : Prop where
  called : GetFATEntry.Called 0x7bf0 cluster config
  sp : config.machine.sp = 0x7bfe#16
  es : config.machine.es = baseOfLoader
  bx : config.machine.bx = BitVec.ofNat 16 (512 * count)
  back : config.machine.memory.word 0#16 0x7bfe#16 = 0x7d20#16
  log : settled config.log = settled entry.log ++
    [dotEvent count, .read (dataCall cluster) (dataRequest cluster count) false]
  frame : ∀ address, 0x7c00 ≤ address → address < 0xa0000 →
    ¬(dataRequest cluster count).Covers address →
      config.machine.memory address = entry.machine.memory address
  data : ∀ index < 512,
    config.machine.memory (0x10000 + 512 * count % 65536 + index) =
      disk (512 * dataSector cluster + index)

theorem load_sector (honours : Honours bios disk)
    (admitted : allowed.cluster (BitVec.ofNat 16 cluster))
    (serves : total → Serves bios failures (dataRequest cluster count))
    (atCluster : AtCluster cluster count config) (small : dataSector cluster < 4608)
    (permitted : allowed.read (dataCall cluster) (dataRequest cluster count)) :
    Advances (step code bios) total (Good 0x7bf0 allowed) config
      (Loaded disk cluster count config) := by
  apply (reach_read honours (by decide) admitted atCluster).bind
  intro entered dotted
  apply (ReadOneSector.read_one_sector honours (by rwa [dotted.asked])
    (dotted.called (by decide) small) (by rwa [dotted.asked, dotted.call])).bind
  intro back returned
  have frame : ∀ address, 0x7bfc ≤ address → address < 0xa0000 →
      ¬(dataRequest cluster count).Covers address →
        back.machine.memory address = entered.machine.memory address := by
    intro address lower upper outside
    apply returned.frame address _ upper
    · rwa [dotted.asked]
    · rw [dotted.sp]
      exact lower
  have sp : back.machine.sp = 0x7bfe#16 := by
    rw [returned.sp, dotted.sp]
    rfl
  have top : back.machine.memory.word 0#16 0x7bfe#16 = BitVec.ofNat 16 cluster := by
    rw [← dotted.top]
    apply Memory.word_congr
    · exact frame 0x7bfe (by omega) (by omega) (by rw [data_request_covers]; omega)
    · exact frame 0x7bff (by omega) (by omega) (by rw [data_request_covers]; omega)
  apply Runs.walk
  apply call_fat returned.fault returned.cs returned.ss _ sp (by decide) top
  · apply Runs.here
    have kept : ∀ address, 0x7c00 ≤ address → address < 0xa0000 →
        ¬(dataRequest cluster count).Covers address →
          back.machine.memory.setWord 0#16 0x7bfe#16 0x7d20#16 address =
            config.machine.memory address := by
      intro address lower upper outside
      rw [Memory.set_word_above (by simp; omega), frame _ (by omega) upper outside,
        dotted.frame _ lower upper]
    exact
      { called :=
          { ready :=
              { fault := returned.fault, cs := returned.cs, ds := returned.ds, ss := returned.ss
                intact := atCluster.ready.intact.of_agree (fun address lower upper _ =>
                  kept address lower (by omega) (by rw [data_request_covers]; omega)) }
            ip := rfl
            room := le_refl 0x7bfe
            below := le_refl 0x7bfe
            ax := rfl }
        sp := rfl
        es := returned.es.trans dotted.es
        bx := returned.bx.trans dotted.bx
        back := Memory.word_set_word ..
        log := by
          rw [returned.log, dotted.log, dotted.call, dotted.asked]
          simp [settled, dotEvent]
        frame := kept
        data := fun index bound => by
          have delivered := returned.data index
          rw [dotted.asked, data_request_start, data_request_size] at delivered
          exact (Memory.set_word_above (by simp; omega)).trans (delivered bound) }
  · rw [returned.ip, dotted.sp]
    exact dotted.back

structure Turned (disk : Disk) (cluster count : Nat) (entry config : Config) : Prop where
  log : settled config.log = settled entry.log ++
    [dotEvent count, .read (dataCall cluster) (dataRequest cluster count) false,
      .read (GetFATEntry.fatCall cluster) (GetFATEntry.fatRequest cluster) false]
  frame : ∀ address, 0x7c00 ≤ address → address < 0xa0000 → address ≠ 0x7dbb →
    ¬(dataRequest cluster count).Covers address →
    ¬(GetFATEntry.fatRequest cluster).Covers address →
      config.machine.memory address = entry.machine.memory address
  data : ∀ index < 512,
    config.machine.memory (0x10000 + 512 * count % 65536 + index) =
      disk (512 * dataSector cluster + index)
  fat : ∀ index < 1024,
    config.machine.memory (0x8000 + index) = disk (512 * GetFATEntry.fatSector cluster + index)

theorem Turned.of_agree {entry later : Config} (turned : Turned disk cluster count entry config)
    (log : later.log = config.log) (kept : ∀ address, 0x7c00 ≤ address →
      later.machine.memory address = config.machine.memory address) :
    Turned disk cluster count entry later where
  log := by rw [log, turned.log]
  frame := fun address lower upper other outside outsideFat =>
    (kept address lower).trans (turned.frame address lower upper other outside outsideFat)
  data := fun index bound => (kept _ (by omega)).trans (turned.data index bound)
  fat := fun index bound => (kept _ (by omega)).trans (turned.fat index bound)

structure LookedUp (disk : Disk) (cluster count : Nat) (entry config : Config) : Prop where
  ready : Ready config
  ip : config.machine.ip = 0x7d20#16
  sp : config.machine.sp = baseOfStack
  es : config.machine.es = baseOfLoader
  ax : config.machine.ax = BitVec.ofNat 16 (Fat12.entry (fat1 disk) cluster)
  bx : config.machine.bx = BitVec.ofNat 16 (512 * count)
  turned : Turned disk cluster count entry config

theorem look_up (honours : Honours bios disk)
    (admitted : allowed.cluster (BitVec.ofNat 16 cluster))
    (serves : total → Serves bios failures (dataRequest cluster count) ∧
      Serves bios failures (GetFATEntry.fatRequest cluster))
    (atCluster : AtCluster cluster count config) (small : cluster < 4577)
    (permitted : allowed.read (dataCall cluster) (dataRequest cluster count))
    (permittedFat : allowed.read (GetFATEntry.fatCall cluster) (GetFATEntry.fatRequest cluster)) :
    Advances (step code bios) total (Good 0x7bf0 allowed) config
      (LookedUp disk cluster count config) := by
  have sector : dataSector cluster < 4608 := by
    simp only [dataSector]
    omega
  apply (load_sector honours admitted (fun ends => (serves ends).1) atCluster sector permitted).bind
  intro loading loaded
  apply (GetFATEntry.get_fat_entry honours (fun ends => (serves ends).2) loaded.called small
    permittedFat).mono (fun _ => id)
  intro back returned
  have kept : ∀ address, 0x7c00 ≤ address → address < 0xa0000 → address ≠ 0x7dbb →
      ¬(0x8000 ≤ address ∧ address < 0x8400) →
        back.machine.memory address = loading.machine.memory address := by
    intro address lower upper other outside
    apply returned.frame address _ upper other outside
    rw [loaded.sp]
    simp
    omega
  have frame : ∀ address, 0x7c00 ≤ address → address < 0xa0000 → address ≠ 0x7dbb →
      ¬(dataRequest cluster count).Covers address →
      ¬(GetFATEntry.fatRequest cluster).Covers address →
        back.machine.memory address = config.machine.memory address := by
    intro address lower upper other outside outsideFat
    rw [GetFATEntry.fat_request_covers] at outsideFat
    rw [kept address lower upper other outsideFat]
    exact loaded.frame address lower upper outside
  have intact : Intact back.machine.memory :=
    atCluster.ready.intact.of_agree (fun address lower upper outside =>
      frame address lower (by omega) (by omega) (by rw [data_request_covers]; omega)
        (by rw [GetFATEntry.fat_request_covers]; omega))
  exact
    { ready := ⟨returned.fault, returned.cs, returned.ds, returned.ss, intact⟩
      ip := by
        rw [returned.ip, loaded.sp]
        exact loaded.back
      sp := by
        rw [returned.sp, loaded.sp]
        rfl
      es := returned.es.trans loaded.es
      ax := returned.ax
      bx := returned.bx.trans loaded.bx
      turned :=
        { log := by
            rw [returned.log, loaded.log, List.append_assoc]
            rfl
          frame := frame
          data := fun index bound => by
            rw [kept _ (by omega) (by omega) (by omega) (by omega)]
            exact loaded.data index bound
          fat := returned.data } }

theorem entry_word (table : Fat12.Table) (cluster : Nat) :
    BitVec.ofNat 16 (Fat12.entry table cluster) = 0xfff#16 ↔ Fat12.entry table cluster = 0xfff := by
  have bound := Fat12.entry_lt table cluster
  constructor
  · intro same
    have numbers := congrArg BitVec.toNat same
    simp only [BitVec.toNat_ofNat] at numbers
    omega
  · intro same
    rw [same]

/-- A turn of the loop, and where the entry leads. -/
theorem load_cluster (honours : Honours bios disk)
    (admitted : allowed.cluster (BitVec.ofNat 16 cluster))
    (serves : total → Serves bios failures (dataRequest cluster count) ∧
      Serves bios failures (GetFATEntry.fatRequest cluster))
    (atCluster : AtCluster cluster count config) (small : cluster < 4577)
    (permitted : allowed.read (dataCall cluster) (dataRequest cluster count))
    (permittedFat : allowed.read (GetFATEntry.fatCall cluster) (GetFATEntry.fatRequest cluster)) :
    Advances (step code bios) total (Good 0x7bf0 allowed) config (fun later =>
      Turned disk cluster count config later ∧
        if Fat12.entry (fat1 disk) cluster = 0xfff then AtEnd count later
        else AtCluster (Fat12.entry (fat1 disk) cluster) (count + 1) later) := by
  apply (look_up honours admitted serves atCluster small permitted permittedFat).bind
  intro back found
  split_ifs with last
  · apply Runs.walk
    apply finish found.ready.fault found.ready.cs found.ip
      (by rw [found.ax]; exact (entry_word ..).mpr last)
    intro carry zero
    apply Runs.here
    exact ⟨found.turned.of_agree rfl (fun _ _ => rfl),
      { ready := ⟨found.ready.fault, found.ready.cs, found.ready.ds, found.ready.ss,
          found.ready.intact⟩
        ip := rfl, sp := found.sp, es := found.es, bx := found.bx }⟩
  · apply Runs.walk
    apply next_cluster found.ready.fault found.ready.cs found.ready.ds found.ready.ss found.ip
      found.sp (by decide) (by rw [found.ax]; exact mt (entry_word ..).mp last)
      (GetFATEntry.image_bytes_per_sec found.ready.intact)
    intro carry zero
    apply Runs.here
    have kept : ∀ address, 0x7c00 ≤ address →
        back.machine.memory.setWord 0#16 0x7bfe#16 back.machine.ax address =
          back.machine.memory address := by
      intro address lower
      exact Memory.set_word_above (by simp; omega)
    exact ⟨found.turned.of_agree rfl kept,
      { ready := ⟨found.ready.fault, found.ready.cs, found.ready.ds, found.ready.ss,
          found.ready.intact.of_agree (fun address lower _ _ => kept address lower)⟩
        ip := rfl
        sp := rfl
        es := found.es
        ax := by rw [← found.ax]
        bx := by
          simp only [found.bx]
          bv_omega
        top := by
          rw [← found.ax]
          exact Memory.word_set_word .. }⟩

/-- A read the BIOS refuses for good keeps the loop where it is. -/
theorem load_refused (honours : Honours bios disk)
    (admitted : allowed.cluster (BitVec.ofNat 16 cluster))
    (refused : ∀ log machine, machine.isRead → machine.request = dataRequest cluster count →
      (bios.disk log machine).carry = true)
    (atCluster : AtCluster cluster count config) (small : dataSector cluster < 4608)
    (permitted : allowed.read (dataCall cluster) (dataRequest cluster count)) :
    Forever (step code bios) (Good 0x7bf0 allowed) config := by
  have entered : Runs (step code bios) False (Good 0x7bf0 allowed) config _ :=
    (reach_read honours (by decide) admitted atCluster).runs
  apply entered.forever
  intro later dotted
  exact ReadOneSector.read_refused honours (by rwa [dotted.asked])
    (dotted.called (by decide) small) (by rwa [dotted.asked, dotted.call])

/-- A sector number of 4608 or more ends in a divide error. -/
theorem load_faults (honours : Honours bios disk)
    (admitted : allowed.cluster (BitVec.ofNat 16 cluster))
    (atCluster : AtCluster cluster count config) (large : 4608 ≤ dataSector cluster) :
    Advances (step code bios) total (Good 0x7bf0 allowed) config (fun later =>
      Faulting later ∧ settled later.log = settled config.log ++ [dotEvent count]) := by
  apply (reach_read honours (by decide) admitted atCluster).bind
  intro entered dotted
  have wide : dataSector cluster < 65536 := Nat.mod_lt _ (by omega)
  have called : ReadOneSector.Entered 0x7bf0 entered :=
    { ready := dotted.ready, ip := dotted.ip
      room := by
        rw [dotted.sp]
        decide
      below := by
        rw [dotted.sp]
        decide }
  apply (ReadOneSector.read_faults called _).mono (fun _ => id)
  · rintro later ⟨faulting, same⟩
    refine ⟨faulting, ?_⟩
    rw [same, dotted.log]
    simp [settled, dotEvent]
  · rw [dotted.ax, BitVec.toNat_ofNat]
    omega

/-- A cluster whose sector number wrapped ends so too, after the read. -/
theorem wrapped_faults (honours : Honours bios disk)
    (admitted : allowed.cluster (BitVec.ofNat 16 cluster))
    (serves : total → Serves bios failures (dataRequest cluster count))
    (atCluster : AtCluster cluster count config) (large : 65505 ≤ cluster)
    (word : cluster < 65536)
    (permitted : allowed.read (dataCall cluster) (dataRequest cluster count)) :
    Advances (step code bios) total (Good 0x7bf0 allowed) config (fun later =>
      Faulting later ∧ settled later.log = settled config.log ++
        [dotEvent count, .read (dataCall cluster) (dataRequest cluster count) false]) := by
  have sector : dataSector cluster < 4608 := by
    simp only [dataSector]
    omega
  apply (load_sector honours admitted serves atCluster sector permitted).bind
  intro loading loaded
  apply (GetFATEntry.fat_faults loaded.called (by omega) word).mono (fun _ => id)
  rintro later ⟨faulting, same⟩
  exact ⟨faulting, by rw [same, loaded.log]⟩

end Turn

section FirstCluster

variable {slot : Nat} {config : Config} {cluster : Word}

structure Taken (cluster : Word) (entry config : Config) : Prop where
  ready : Ready config
  ip : config.machine.ip = 0x7cfc#16
  ax : config.machine.ax = 14#16
  cx : config.machine.cx = cluster
  sp : config.machine.sp = 0x7bfe#16
  top : config.machine.memory.word 0#16 0x7bfe#16 = cluster
  log : config.log = entry.log
  frame : ∀ address, 0x7c00 ≤ address →
    config.machine.memory address = entry.machine.memory address

theorem reach_push (found : Search.AtFound slot config)
    (there : config.machine.memory.word 0#16 (BitVec.ofNat 16 (0x8000 + 32 * slot + 0x1a)) =
      cluster) :
    Advances (step code bios) total (Good 0x7bf0 allowed) config (fun later =>
      Taken cluster config later ∧
        later.machine.di = BitVec.ofNat 16 (0x8000 + 32 * slot + 0x1a)) := by
  have offset : (config.machine.di &&& 0xffe0#16) + 0x1a#16 =
      BitVec.ofNat 16 (0x8000 + 32 * slot + 0x1a) := by
    rw [found.di, Search.slot_start slot 11 (by omega)]
    bv_omega
  apply Runs.advance
  apply take_cluster cluster found.ready.fault found.ready.cs found.es
    found.ready.ss found.ip found.sp (by decide) (by rwa [offset])
  intro carry zero
  apply Runs.here
  have frame : ∀ address, 0x7c00 ≤ address →
      config.machine.memory.setWord 0#16 0x7bfe#16 cluster address =
        config.machine.memory address := by
    intro address lower
    exact Memory.set_word_above (by simp; omega)
  exact ⟨
    { ready :=
        { fault := found.ready.fault, cs := found.ready.cs, ds := found.ready.ds
          ss := found.ready.ss
          intact := found.ready.intact.of_agree (fun address lower _ _ => frame address lower) }
      ip := rfl, ax := rfl, cx := rfl, sp := rfl
      top := Memory.word_set_word ..
      log := rfl
      frame := frame }, offset⟩

theorem reach_loop {entry : Config} {first : Nat} (taken : Taken cluster entry config)
    (same : cluster = BitVec.ofNat 16 first) :
    Runs (step code bios) total (Good 0x7bf0 allowed) config (fun later =>
      AtCluster first 0 later ∧ later.machine.di = config.machine.di ∧ later.log = entry.log ∧
        ∀ address, 0x7c00 ≤ address →
          later.machine.memory address = entry.machine.memory address) := by
  subst same
  apply Runs.walk
  apply point_segment taken.ready.fault taken.ready.cs taken.ip taken.ax taken.cx
  intro carry zero
  apply Runs.here
  exact ⟨{ ready := ⟨taken.ready.fault, taken.ready.cs, taken.ready.ds, taken.ready.ss,
             taken.ready.intact⟩
           ip := rfl, sp := taken.sp, es := rfl, ax := rfl, bx := rfl, top := taken.top },
    rfl, taken.log, taken.frame⟩

end FirstCluster

end BootSector.LoadFile
