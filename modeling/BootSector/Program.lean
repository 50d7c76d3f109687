import BootSector.Bios

/-!
# boot.asm

The boot sector as assembled: its labels and constants under the source's
names, its instructions with the offsets the assembler gave them, and the 512
bytes of the image. Code runs at `0000:7C00`, so an offset is also a physical
address.
-/

namespace BootSector.Program

open RealMode Bios

def baseOfStack : Word := 0x7c00#16
def baseOfLoader : Word := 0x1000#16
def offsetOfLoader : Word := 0#16
def rootDirectorySectors : Word := 14#16
def sectorNumberOfRootDirectoryStart : Word := 19#16
def sectorNumberOfFAT1Start : Word := 1#16
def sectorBalance : Word := 17#16

section Labels

def start : Word := 0x7c3e#16
def searchInRootDirectoryBegin : Word := 0x7c85#16
def searchForLoaderBin : Word := 0x7caa#16
def compareFileName : Word := 0x7cb3#16
def goOn : Word := 0x7cc1#16
def different : Word := 0x7cc4#16
def goToNextSectorInRootDirectory : Word := 0x7ccf#16
def noLoaderBin : Word := 0x7cd6#16
def endlessJump : Word := 0x7ced#16
def fileNameFound : Word := 0x7cef#16
def goOnLoadingFile : Word := 0x7d0b#16
def fileLoaded : Word := 0x7d34#16
def readOneSector : Word := 0x7d39#16
def goOnReading : Word := 0x7d5c#16
def getFATEntry : Word := 0x7d6b#16
def even : Word := 0x7d8d#16
def even2 : Word := 0x7db1#16

def bpbBytesPerSec : Word := 0x7c0b#16
def bpbSecPerTrk : Word := 0x7c18#16
def bsDrvNum : Word := 0x7c24#16
def rootDirectorySizeForLoop : Word := 0x7db7#16
def sectorNumber : Word := 0x7db9#16
def odd : Word := 0x7dbb#16
def startBootMessage : Word := 0x7dbc#16
def noLoaderMessage : Word := 0x7dc6#16
def loaderFileName : Word := 0x7ddb#16

end Labels

section Operands

instance : Coe Loc8 Src8 := ⟨.loc⟩
instance : Coe Loc16 Src16 := ⟨.loc⟩
instance (value : Nat) : OfNat Src8 value := ⟨.imm (BitVec.ofNat 8 value)⟩
instance (value : Nat) : OfNat Src16 value := ⟨.imm (BitVec.ofNat 16 value)⟩
instance : Coe Word Src16 := ⟨.imm⟩

abbrev al : Loc8 := .reg .al
abbrev ah : Loc8 := .reg .ah
abbrev bl : Loc8 := .reg .bl
abbrev cl : Loc8 := .reg .cl
abbrev ch : Loc8 := .reg .ch
abbrev dl : Loc8 := .reg .dl
abbrev dh : Loc8 := .reg .dh
abbrev ax : Loc16 := .reg .ax
abbrev bx : Loc16 := .reg .bx
abbrev cx : Loc16 := .reg .cx
abbrev dx : Loc16 := .reg .dx
abbrev si : Loc16 := .reg .si
abbrev di : Loc16 := .reg .di
abbrev bp : Loc16 := .reg .bp
abbrev sp : Loc16 := .reg .sp
abbrev cs : Loc16 := .seg .cs
abbrev ds : Loc16 := .seg .ds
abbrev es : Loc16 := .seg .es
abbrev ss : Loc16 := .seg .ss

abbrev at8 (label : Word) : Loc8 := .mem ⟨.ds, none, label⟩
abbrev at16 (label : Word) : Loc16 := .mem ⟨.ds, none, label⟩

abbrev countSlot : Loc8 := .mem ⟨.ss, some .bp, -2⟩

abbrev es8 (register : Reg16) : Loc8 := .mem ⟨.es, some register, 0⟩
abbrev es16 (register : Reg16) : Loc16 := .mem ⟨.es, some register, 0⟩

end Operands

/-- The two lines before the parameter block. -/
def entryLines : List (Word × Instr) :=
  [(0x7c00, .jmp start),
    (0x7c02, .nop)]

/-- Video set-up, drive reset, first root-directory sector. -/
def startLines : List (Word × Instr) :=
  [(0x7c3e, .mov16 ax cs),
    (0x7c40, .mov16 ds ax),
    (0x7c42, .mov16 es ax),
    (0x7c44, .mov16 ss ax),
    (0x7c46, .mov16 sp baseOfStack),
    (0x7c49, .mov16 ax 0x0600),
    (0x7c4c, .mov16 bx 0x0700),
    (0x7c4f, .mov16 cx 0),
    (0x7c52, .mov16 dx 0x184f),
    (0x7c55, .int10),
    (0x7c57, .mov16 ax 0x0200),
    (0x7c5a, .mov16 bx 0),
    (0x7c5d, .mov16 dx 0),
    (0x7c60, .int10),
    (0x7c62, .mov16 ax 0x1301),
    (0x7c65, .mov16 bx 0x000f),
    (0x7c68, .mov16 dx 0),
    (0x7c6b, .mov16 cx 10),
    (0x7c6e, .push ax),
    (0x7c6f, .mov16 ax ds),
    (0x7c71, .mov16 es ax),
    (0x7c73, .pop ax),
    (0x7c74, .mov16 bp startBootMessage),
    (0x7c77, .int10),
    (0x7c79, .alu8 .xor ah ah),
    (0x7c7b, .alu8 .xor dl dl),
    (0x7c7d, .int13),
    (0x7c7f, .mov16 (at16 sectorNumber) sectorNumberOfRootDirectoryStart)]

def searchLines : List (Word × Instr) :=
  [(0x7c85, .alu16 .cmp (at16 rootDirectorySizeForLoop) 0),
    (0x7c8a, .jz noLoaderBin),
    (0x7c8c, .dec16 (at16 rootDirectorySizeForLoop)),
    (0x7c90, .mov16 ax 0),
    (0x7c93, .mov16 es ax),
    (0x7c95, .mov16 bx 0x8000),
    (0x7c98, .mov16 ax (at16 sectorNumber)),
    (0x7c9b, .mov8 cl 1),
    (0x7c9d, .call readOneSector),
    (0x7ca0, .mov16 si loaderFileName),
    (0x7ca3, .mov16 di 0x8000),
    (0x7ca6, .cld),
    (0x7ca7, .mov16 dx 0x10),
    -- SearchForLoaderBin
    (0x7caa, .alu16 .cmp dx 0),
    (0x7cad, .jz goToNextSectorInRootDirectory),
    (0x7caf, .dec16 dx),
    (0x7cb0, .mov16 cx 11),
    -- CompareFileName
    (0x7cb3, .alu16 .cmp cx 0),
    (0x7cb6, .jz fileNameFound),
    (0x7cb8, .dec16 cx),
    (0x7cb9, .lodsb),
    (0x7cba, .alu8 .cmp al (es8 .di)),
    (0x7cbd, .jz goOn),
    (0x7cbf, .jmp different),
    -- GoOn
    (0x7cc1, .inc16 di),
    (0x7cc2, .jmp compareFileName),
    -- Different
    (0x7cc4, .alu16 .and di 0xffe0),
    (0x7cc7, .alu16 .add di 0x20),
    (0x7cca, .mov16 si loaderFileName),
    (0x7ccd, .jmp searchForLoaderBin),
    -- GoToNextSectorInRootDirectory
    (0x7ccf, .alu16 .add (at16 sectorNumber) 1),
    (0x7cd4, .jmp searchInRootDirectoryBegin)]

def noLoaderLines : List (Word × Instr) :=
  [(0x7cd6, .mov16 ax 0x1301),
    (0x7cd9, .mov16 bx 0x008c),
    (0x7cdc, .mov16 dx 0x0100),
    (0x7cdf, .mov16 cx 21),
    (0x7ce2, .push ax),
    (0x7ce3, .mov16 ax ds),
    (0x7ce5, .mov16 es ax),
    (0x7ce7, .pop ax),
    (0x7ce8, .mov16 bp noLoaderMessage),
    (0x7ceb, .int10),
    (0x7ced, .jmp 0x7ced)]

def foundLines : List (Word × Instr) :=
  [(0x7cef, .mov16 ax rootDirectorySectors),
    (0x7cf2, .alu16 .and di 0xffe0),
    (0x7cf5, .alu16 .add di 0x1a),
    (0x7cf8, .mov16 cx (es16 .di)),
    (0x7cfb, .push cx),
    (0x7cfc, .alu16 .add cx ax),
    (0x7cfe, .alu16 .add cx sectorBalance),
    (0x7d01, .mov16 ax baseOfLoader),
    (0x7d04, .mov16 es ax),
    (0x7d06, .mov16 bx offsetOfLoader),
    (0x7d09, .mov16 ax cx)]

/-- The loading loop and the jump into the loader. -/
def loadLines : List (Word × Instr) :=
  [(0x7d0b, .push ax),
    (0x7d0c, .push bx),
    (0x7d0d, .mov8 ah 0x0e),
    (0x7d0f, .mov8 al 0x2e),
    (0x7d11, .mov8 bl 0x0f),
    (0x7d13, .int10),
    (0x7d15, .pop bx),
    (0x7d16, .pop ax),
    (0x7d17, .mov8 cl 1),
    (0x7d19, .call readOneSector),
    (0x7d1c, .pop ax),
    (0x7d1d, .call getFATEntry),
    (0x7d20, .alu16 .cmp ax 0x0fff),
    (0x7d23, .jz fileLoaded),
    (0x7d25, .push ax),
    (0x7d26, .mov16 dx rootDirectorySectors),
    (0x7d29, .alu16 .add ax dx),
    (0x7d2b, .alu16 .add ax sectorBalance),
    (0x7d2e, .alu16 .add bx (at16 bpbBytesPerSec)),
    (0x7d32, .jmp goOnLoadingFile),
    -- FileLoaded
    (0x7d34, .jmpFar baseOfLoader offsetOfLoader)]

def readLines : List (Word × Instr) :=
  [(0x7d39, .push bp),
    (0x7d3a, .mov16 bp sp),
    (0x7d3c, .subEsp 2),
    (0x7d40, .mov8 countSlot cl),
    (0x7d43, .push bx),
    (0x7d44, .mov8 bl (at8 bpbSecPerTrk)),
    (0x7d48, .div8 bl),
    (0x7d4a, .inc8 ah),
    (0x7d4c, .mov8 cl ah),
    (0x7d4e, .mov8 dh al),
    (0x7d50, .shr8 al 1),
    (0x7d52, .mov8 ch al),
    (0x7d54, .alu8 .and dh 1),
    (0x7d57, .pop bx),
    (0x7d58, .mov8 dl (at8 bsDrvNum)),
    -- GoOnReading
    (0x7d5c, .mov8 ah 2),
    (0x7d5e, .mov8 al countSlot),
    (0x7d61, .int13),
    (0x7d63, .jc goOnReading),
    (0x7d65, .addEsp 2),
    (0x7d69, .pop bp),
    (0x7d6a, .ret)]

def fatLines : List (Word × Instr) :=
  [(0x7d6b, .push es),
    (0x7d6c, .push bx),
    (0x7d6d, .push ax),
    (0x7d6e, .mov16 ax 0),
    (0x7d71, .mov16 es ax),
    (0x7d73, .pop ax),
    (0x7d74, .mov8 (at8 odd) 0),
    (0x7d79, .mov16 bx 3),
    (0x7d7c, .mul16 bx),
    (0x7d7e, .mov16 bx 2),
    (0x7d81, .div16 bx),
    (0x7d83, .alu16 .cmp dx 0),
    (0x7d86, .jz even),
    (0x7d88, .mov8 (at8 odd) 1),
    -- Even
    (0x7d8d, .alu16 .xor dx dx),
    (0x7d8f, .mov16 bx (at16 bpbBytesPerSec)),
    (0x7d93, .div16 bx),
    (0x7d95, .push dx),
    (0x7d96, .mov16 bx 0x8000),
    (0x7d99, .alu16 .add ax sectorNumberOfFAT1Start),
    (0x7d9c, .mov8 cl 2),
    (0x7d9e, .call readOneSector),
    (0x7da1, .pop dx),
    (0x7da2, .alu16 .add bx dx),
    (0x7da4, .mov16 ax (es16 .bx)),
    (0x7da7, .alu8 .cmp (at8 odd) 1),
    (0x7dac, .jnz even2),
    (0x7dae, .shr16 ax 4),
    -- Even2
    (0x7db1, .alu16 .and ax 0x0fff),
    (0x7db4, .pop bx),
    (0x7db5, .pop es),
    (0x7db6, .ret)]

/-- The line at an offset and the offset of the line after it, in a routine
that ends at `ending`. -/
def lineAt (ending : Word) : List (Word × Instr) → Word → Option (Instr × Word)
  | [], _ => none
  | [(here, instr)], ip => if ip = here then some (instr, ending) else none
  | (here, instr) :: (next, other) :: rest, ip =>
      if ip = here then some (instr, next) else lineAt ending ((next, other) :: rest) ip

/-- The code of the image. The parameter block starts at 7C03h and the
variables at `RootDirectorySizeForLoop`; only segment 0 holds known code. -/
def code : Code := fun cs ip =>
  if cs ≠ 0 then none
  else if ip < start then lineAt 0x7c03 entryLines ip
  else if ip < searchInRootDirectoryBegin then lineAt searchInRootDirectoryBegin startLines ip
  else if ip < noLoaderBin then lineAt noLoaderBin searchLines ip
  else if ip < fileNameFound then lineAt fileNameFound noLoaderLines ip
  else if ip < goOnLoadingFile then lineAt goOnLoadingFile foundLines ip
  else if ip < readOneSector then lineAt readOneSector loadLines ip
  else if ip < getFATEntry then lineAt getFATEntry readLines ip
  else lineAt rootDirectorySizeForLoop fatLines ip

/-- The 512 bytes of the image, `boot.bin`. -/
def image : List Nat :=
  [0xeb, 0x3c, 0x90, 0x4d, 0x69, 0x6e, 0x65, 0x42, 0x6f, 0x6f, 0x74, 0x00, 0x02, 0x01, 0x01, 0x00,
    0x02, 0xe0, 0x00, 0x40, 0x0b, 0xf0, 0x09, 0x00, 0x12, 0x00, 0x02, 0x00, 0x00, 0x00, 0x00, 0x00,
    0x00, 0x00, 0x00, 0x00, 0x00, 0x00, 0x29, 0x00, 0x00, 0x00, 0x00, 0x42, 0x6f, 0x6f, 0x74, 0x20,
    0x4c, 0x6f, 0x61, 0x64, 0x65, 0x72, 0x46, 0x41, 0x54, 0x31, 0x32, 0x20, 0x20, 0x20, 0x8c, 0xc8,
    0x8e, 0xd8, 0x8e, 0xc0, 0x8e, 0xd0, 0xbc, 0x00, 0x7c, 0xb8, 0x00, 0x06, 0xbb, 0x00, 0x07, 0xb9,
    0x00, 0x00, 0xba, 0x4f, 0x18, 0xcd, 0x10, 0xb8, 0x00, 0x02, 0xbb, 0x00, 0x00, 0xba, 0x00, 0x00,
    0xcd, 0x10, 0xb8, 0x01, 0x13, 0xbb, 0x0f, 0x00, 0xba, 0x00, 0x00, 0xb9, 0x0a, 0x00, 0x50, 0x8c,
    0xd8, 0x8e, 0xc0, 0x58, 0xbd, 0xbc, 0x7d, 0xcd, 0x10, 0x30, 0xe4, 0x30, 0xd2, 0xcd, 0x13, 0xc7,
    0x06, 0xb9, 0x7d, 0x13, 0x00, 0x83, 0x3e, 0xb7, 0x7d, 0x00, 0x74, 0x4a, 0xff, 0x0e, 0xb7, 0x7d,
    0xb8, 0x00, 0x00, 0x8e, 0xc0, 0xbb, 0x00, 0x80, 0xa1, 0xb9, 0x7d, 0xb1, 0x01, 0xe8, 0x99, 0x00,
    0xbe, 0xdb, 0x7d, 0xbf, 0x00, 0x80, 0xfc, 0xba, 0x10, 0x00, 0x83, 0xfa, 0x00, 0x74, 0x20, 0x4a,
    0xb9, 0x0b, 0x00, 0x83, 0xf9, 0x00, 0x74, 0x37, 0x49, 0xac, 0x26, 0x3a, 0x05, 0x74, 0x02, 0xeb,
    0x03, 0x47, 0xeb, 0xef, 0x83, 0xe7, 0xe0, 0x83, 0xc7, 0x20, 0xbe, 0xdb, 0x7d, 0xeb, 0xdb, 0x83,
    0x06, 0xb9, 0x7d, 0x01, 0xeb, 0xaf, 0xb8, 0x01, 0x13, 0xbb, 0x8c, 0x00, 0xba, 0x00, 0x01, 0xb9,
    0x15, 0x00, 0x50, 0x8c, 0xd8, 0x8e, 0xc0, 0x58, 0xbd, 0xc6, 0x7d, 0xcd, 0x10, 0xeb, 0xfe, 0xb8,
    0x0e, 0x00, 0x83, 0xe7, 0xe0, 0x83, 0xc7, 0x1a, 0x26, 0x8b, 0x0d, 0x51, 0x01, 0xc1, 0x83, 0xc1,
    0x11, 0xb8, 0x00, 0x10, 0x8e, 0xc0, 0xbb, 0x00, 0x00, 0x89, 0xc8, 0x50, 0x53, 0xb4, 0x0e, 0xb0,
    0x2e, 0xb3, 0x0f, 0xcd, 0x10, 0x5b, 0x58, 0xb1, 0x01, 0xe8, 0x1d, 0x00, 0x58, 0xe8, 0x4b, 0x00,
    0x3d, 0xff, 0x0f, 0x74, 0x0f, 0x50, 0xba, 0x0e, 0x00, 0x01, 0xd0, 0x83, 0xc0, 0x11, 0x03, 0x1e,
    0x0b, 0x7c, 0xeb, 0xd7, 0xea, 0x00, 0x00, 0x00, 0x10, 0x55, 0x89, 0xe5, 0x66, 0x83, 0xec, 0x02,
    0x88, 0x4e, 0xfe, 0x53, 0x8a, 0x1e, 0x18, 0x7c, 0xf6, 0xf3, 0xfe, 0xc4, 0x88, 0xe1, 0x88, 0xc6,
    0xd0, 0xe8, 0x88, 0xc5, 0x80, 0xe6, 0x01, 0x5b, 0x8a, 0x16, 0x24, 0x7c, 0xb4, 0x02, 0x8a, 0x46,
    0xfe, 0xcd, 0x13, 0x72, 0xf7, 0x66, 0x83, 0xc4, 0x02, 0x5d, 0xc3, 0x06, 0x53, 0x50, 0xb8, 0x00,
    0x00, 0x8e, 0xc0, 0x58, 0xc6, 0x06, 0xbb, 0x7d, 0x00, 0xbb, 0x03, 0x00, 0xf7, 0xe3, 0xbb, 0x02,
    0x00, 0xf7, 0xf3, 0x83, 0xfa, 0x00, 0x74, 0x05, 0xc6, 0x06, 0xbb, 0x7d, 0x01, 0x31, 0xd2, 0x8b,
    0x1e, 0x0b, 0x7c, 0xf7, 0xf3, 0x52, 0xbb, 0x00, 0x80, 0x83, 0xc0, 0x01, 0xb1, 0x02, 0xe8, 0x98,
    0xff, 0x5a, 0x01, 0xd3, 0x26, 0x8b, 0x07, 0x80, 0x3e, 0xbb, 0x7d, 0x01, 0x75, 0x03, 0xc1, 0xe8,
    0x04, 0x25, 0xff, 0x0f, 0x5b, 0x07, 0xc3, 0x0e, 0x00, 0x00, 0x00, 0x00, 0x53, 0x74, 0x61, 0x72,
    0x74, 0x20, 0x42, 0x6f, 0x6f, 0x74, 0x45, 0x52, 0x52, 0x4f, 0x52, 0x3a, 0x4e, 0x6f, 0x20, 0x4c,
    0x6f, 0x61, 0x64, 0x65, 0x72, 0x20, 0x46, 0x6f, 0x75, 0x6e, 0x64, 0x4c, 0x4f, 0x41, 0x44, 0x45,
    0x52, 0x20, 0x20, 0x42, 0x49, 0x4e, 0x00, 0x00, 0x00, 0x00, 0x00, 0x00, 0x00, 0x00, 0x00, 0x00,
    0x00, 0x00, 0x00, 0x00, 0x00, 0x00, 0x00, 0x00, 0x00, 0x00, 0x00, 0x00, 0x00, 0x00, 0x55, 0xaa]

def imageByte (index : Nat) : Byte := BitVec.ofNat 8 (image.getD index 0)

end BootSector.Program
