import MemCordon.Foundations.CodedText
import MemCordon.Foundations.RawMemory

/-!
# Loader contracts of PE images

`windows_pe.rs`: the headers, import tables and exports of an image, read from the file through its
section table or from a mapped view (`PeLayout`). A delay-import descriptor may give its addresses
as virtual ones; `vaOrRva` makes them relative to the image base.

* `DelayFields.relative` and `relativeImports` say what a delay-import table means: the imports of
  its equivalent with relative addresses, each converted once.
* `delayImports_exact`: where a descriptor has no lookup table the parser falls back to the import
  address table, whose address it has converted by then, and converts it again. The theorem says
  for which tables that is harmless.
-/

namespace MemCordon.WindowsPe

open Fallible Counter RawMemory

/-- `WindowsPeImportSymbol`; texts are ASCII and modelled by their bytes. -/
inductive ImportSymbol
  | name (hint : UInt16) (name : List UInt8)
  | ordinal (ordinal : UInt16)
  deriving DecidableEq

/-- `WindowsPeImportDescriptor` -/
structure ImportDescriptor where
  ordinal : UInt32
  dll : List UInt8
  symbols : List ImportSymbol
  lookupTableRva : UInt32
  iatRva : UInt32
  boundTimestamp : UInt32
  deriving DecidableEq

/-- `WindowsPeExportTarget` -/
inductive ExportTarget
  | directRva (rva : UInt32)
  | forwarder (name : List UInt8)
  deriving DecidableEq

/-- `WindowsPeExport` -/
structure Export where
  ordinal : UInt32
  name : Option (List UInt8)
  target : ExportTarget
  deriving DecidableEq

/-- `WindowsPeLoaderContract` -/
structure LoaderContract where
  machine : UInt16
  normal : List ImportDescriptor
  delayed : List ImportDescriptor
  exports : List Export
  deriving DecidableEq

inductive PeLayout
  | file
  | mappedImage

def machineAmd64 : UInt16 := 0x8664
def machineArm64 : UInt16 := 0xaa64
def maxExports : ℕ := 65536
def maxImportDescriptors : ℕ := 1024
def maxImportThunks : ℕ := 16384
def maxPeStringBytes : ℕ := 4096

/-! ## Fields and addresses -/

variable (bytes : List UInt8)

/-- `bytes.get(offset..end)` with `end` at the given distance. -/
def slice (offset width : ℕ) (overflow truncated : String) : Except String (List UInt8) := do
  let stop ← okOr overflow (checkedAdd offset width)
  reject truncated (bytes.length < stop)
  return (bytes.drop offset).take width

/-- The little-endian field of a width. -/
def field (offset width : ℕ) : Except String ℕ :=
  (slice bytes offset width "PE offset overflow" "PE field is truncated").map leValue

def word (offset : ℕ) : Except String UInt16 := (field bytes offset 2).map UInt16.ofNat
def dword (offset : ℕ) : Except String UInt32 := (field bytes offset 4).map UInt32.ofNat
def qword (offset : ℕ) : Except String UInt64 := (field bytes offset 8).map UInt64.ofNat

structure Section where
  (virtualAddress virtualSize rawOffset rawSize : UInt32)
  deriving DecidableEq

/-- `bytes.get(offset..).map(|_| offset)` -/
def inside (offset : ℕ) (outside : String) : Except String ℕ :=
  if offset ≤ bytes.length then .ok offset else .error outside

/-- The loop over the sections in `rva_offset`. -/
def sectionOffset (rva : UInt32) : List Section → Except String ℕ
  | [] => .error "PE RVA is not mapped by a section"
  | s :: sections => do
    let stop := s.virtualAddress.toNat + max s.virtualSize.toNat s.rawSize.toNat
    reject "PE section RVA overflows" (2 ^ 32 ≤ stop)
    if s.virtualAddress ≤ rva ∧ rva.toNat < stop then
      let within := rva.toNat - s.virtualAddress.toNat
      reject "PE RVA points outside section file data" (s.rawSize.toNat ≤ within)
      reject "PE section file offset overflows" (2 ^ 32 ≤ s.rawOffset.toNat + within)
      inside bytes (s.rawOffset.toNat + within) "PE section file offset is outside the image"
    else
      sectionOffset rva sections

def rvaOffset (rva sizeOfHeaders : UInt32) (sections : List Section) : Except String ℕ :=
  if rva < sizeOfHeaders then inside bytes rva.toNat "PE header RVA is outside the image"
  else sectionOffset bytes rva sections

structure PeHeaders where
  machine : UInt16
  imageBase : UInt64
  sizeOfHeaders : UInt32
  sections : List Section
  (exportRva exportSize normalRva normalSize delayRva delaySize : UInt32)
  deriving DecidableEq

/-- `{machine:04x}` -/
def hex4 (machine : UInt16) : String :=
  String.ofList ((Nat.toDigits 16 machine.toNat).leftpad 4 '0')

/-- The loop of `pe_headers` over the sections from an index on. An index times the size of a record
does not overflow in this or any later loop. -/
def sectionTable (optionalEnd : ℕ) : ℕ → ℕ → Except String (List Section)
  | 0, _ => .ok []
  | remaining + 1, index => do
    let offset ← okOr "PE section offset overflow" (checkedAdd optionalEnd (index * 40))
    let _ ← slice bytes offset 40 "PE section header overflow" "PE section header is truncated"
    let virtualSize ← dword bytes (offset + 8)
    let virtualAddress ← dword bytes (offset + 12)
    let rawSize ← dword bytes (offset + 16)
    let rawOffset ← dword bytes (offset + 20)
    let sections ← sectionTable optionalEnd remaining (index + 1)
    return ⟨virtualAddress, virtualSize, rawOffset, rawSize⟩ :: sections

def peHeaders : Except String PeHeaders := do
  -- `MZ` and `PE\0\0`
  reject "Windows helper lacks the DOS header" (bytes.take 2 ≠ [77, 90])
  let pe := (← dword bytes 0x3c).toNat
  let _ ← okOr "PE header offset overflow" (checkedAdd pe 4)
  reject "Windows helper lacks the PE signature" ((bytes.drop pe).take 4 ≠ [80, 69, 0, 0])
  let machine ← word bytes (pe + 4)
  reject ("Windows helper has unsupported PE machine 0x" ++ hex4 machine)
    (machine ≠ machineAmd64 ∧ machine ≠ machineArm64)
  let sectionCount ← word bytes (pe + 6)
  let optionalSize ← word bytes (pe + 20)
  let optional ← okOr "PE optional-header offset overflow" (checkedAdd pe 24)
  let magic ← word bytes optional
  reject "Windows helper is not a complete PE32+ image" (magic ≠ 0x20b ∨ optionalSize < 224)
  let _ ← slice bytes optional optionalSize.toNat "PE optional-header size overflow"
    "PE optional header is truncated"
  let imageBase ← qword bytes (optional + 24)
  let sizeOfHeaders ← dword bytes (optional + 60)
  let directories ← dword bytes (optional + 108)
  reject "Windows helper lacks required PE data directories" (directories ≤ 13)
  let sections ← sectionTable bytes (optional + optionalSize.toNat) sectionCount.toNat 0
  let exportRva ← dword bytes (optional + 112)
  let exportSize ← dword bytes (optional + 116)
  let normalRva ← dword bytes (optional + 120)
  let normalSize ← dword bytes (optional + 124)
  let delayRva ← dword bytes (optional + 216)
  let delaySize ← dword bytes (optional + 220)
  return ⟨machine, imageBase, sizeOfHeaders, sections, exportRva, exportSize, normalRva, normalSize,
    delayRva, delaySize⟩

def layoutRvaOffset (rva : UInt32) (headers : PeHeaders) : PeLayout → Except String ℕ
  | .file => rvaOffset bytes rva headers.sizeOfHeaders headers.sections
  | .mappedImage => inside bytes rva.toNat "PE mapped-image RVA is outside the view"

variable (headers : PeHeaders) (layout : PeLayout)

/-! ## Names and symbols -/

/-- `str::is_ascii` -/
def isAscii (text : List UInt8) : Bool := text.all (· < 128)

def asciiString (offset : ℕ) (kind : String) : Except String (List UInt8) := do
  let offset ← inside bytes offset ("PE " ++ kind ++ " string offset is outside the image")
  let bounded := (bytes.drop offset).take (maxPeStringBytes + 1)
  let length ← okOr ("PE " ++ kind ++ " string is unterminated or exceeds its bound")
    (bounded.findIdx? (· == 0))
  let value := bounded.take length
  reject ("PE " ++ kind ++ " string is not UTF-8") (CodedText.isUtf8 value = false)
  reject ("PE " ++ kind ++ " string is not canonical ASCII") (value = [] ∨ isAscii value = false)
  return value

/-- `u8::to_ascii_uppercase` -/
def toAsciiUppercase (byte : UInt8) : UInt8 := if 97 ≤ byte ∧ byte ≤ 122 then byte - 32 else byte

def dllName (offset : ℕ) : Except String (List UInt8) := do
  let name ← asciiString bytes offset "import name"
  -- `/` and `\`
  reject "PE import name is not a canonical DLL basename"
    (name = [] ∨ isAscii name = false ∨ 47 ∈ name ∨ 92 ∈ name)
  return name.map toAsciiUppercase

def vaOrRva (value : UInt32) (imageBase : UInt64) (rvaBased : Bool) (field : String) :
    Except String UInt32 :=
  if rvaBased = true ∨ value = 0 then .ok value else do
    let relative ← okOr ("PE delay import " ++ field ++ " precedes image base")
      (checkedSub value.toNat imageBase.toNat)
    reject ("PE delay import " ++ field ++ " RVA is too large") (2 ^ 32 ≤ relative)
    return UInt32.ofNat relative

/-- `1_u64 << 63` -/
def ordinalFlag : UInt64 := (1 : UInt64) <<< 63

/-- The symbol a thunk other than the terminating one stands for. -/
def importSymbol (thunk : UInt64) : Except String ImportSymbol :=
  if thunk &&& ordinalFlag ≠ 0 then do
    reject "PE ordinal thunk has reserved bits" (thunk &&& ~~~(ordinalFlag ||| 0xffff) ≠ 0)
    return .ordinal thunk.toUInt16
  else do
    reject "PE name thunk RVA is too large" (2 ^ 32 ≤ thunk.toNat)
    let nameOffset ← layoutRvaOffset bytes thunk.toUInt32 headers layout
    let hint ← word bytes nameOffset
    return .name hint (← asciiString bytes (nameOffset + 2) "import symbol")

/-- The loop of `import_symbols` from a thunk on. -/
def importThunks (start : ℕ) : ℕ → ℕ → Except String (List ImportSymbol)
  | 0, _ => .error "PE import thunk table exceeds its bound or is unterminated"
  | remaining + 1, index => do
    let offset ← okOr "PE thunk offset overflow" (checkedAdd start (index * 8))
    let thunk ← qword bytes offset
    if thunk = 0 then
      return []
    let symbol ← importSymbol bytes headers layout thunk
    return symbol :: (← importThunks start remaining (index + 1))

def importSymbols (lookupRva : UInt32) : Except String (List ImportSymbol) := do
  reject "PE import descriptor has no lookup or IAT table" (lookupRva = 0)
  let start ← layoutRvaOffset bytes lookupRva headers layout
  importThunks bytes headers layout start maxImportThunks 0

/-! ## Descriptors -/

/-- The body of the loop of `import_descriptors` at a descriptor that does not end the table. -/
def importDescriptor (delay : Bool) (index offset : ℕ) : Except String ImportDescriptor := do
  let rvaBased ← (if delay then (dword bytes offset).map (· &&& 1 != 0) else .ok true)
  let rawName ← dword bytes (offset + if delay then 4 else 12)
  let nameRva ← vaOrRva rawName headers.imageBase rvaBased "name"
  reject "PE import descriptor has no DLL name" (nameRva = 0)
  let rawIat ← dword bytes (offset + if delay then 12 else 16)
  let iatRva ← vaOrRva rawIat headers.imageBase rvaBased "IAT"
  let rawLookup ← dword bytes (offset + if delay then 16 else 0)
  -- The fallback is relative already, and is converted again.
  let lookupTableRva ← vaOrRva (if rawLookup = 0 then iatRva else rawLookup) headers.imageBase
    rvaBased "lookup table"
  let dll ← dllName bytes (← layoutRvaOffset bytes nameRva headers layout)
  let symbols ← importSymbols bytes headers layout lookupTableRva
  let boundTimestamp ← dword bytes (offset + if delay then 28 else 4)
  return ⟨UInt32.ofNat index, dll, symbols, lookupTableRva, iatRva, boundTimestamp⟩

section Table

variable {α : Type} (describe : ℕ → ℕ → Except String α)

/-- The loop of `import_descriptors` from a descriptor on, with what it does at each. -/
def descriptorTable (start size : ℕ) : ℕ → ℕ → Except String (List α)
  | 0, _ => .error "PE import directory has no terminating descriptor within its bound"
  | remaining + 1, index => do
    let offset ← okOr "PE import descriptor offset overflow" (checkedAdd start (index * size))
    let descriptor ← slice bytes offset size "PE import descriptor overflow"
      "PE import descriptor is truncated"
    if descriptor.all (· == 0) then
      return []
    let item ← describe index offset
    return item :: (← descriptorTable start size remaining (index + 1))

/-- `import_descriptors`, with what it does at each descriptor. -/
def importTable (rva size : UInt32) (delay : Bool) : Except String (List α) :=
  if rva = 0 ∧ size = 0 then .ok [] else do
    reject "PE import directory is partially absent" (rva = 0 ∨ size = 0)
    let descriptorSize := if delay then 32 else 20
    let start ← layoutRvaOffset bytes rva headers layout
    let maximum := min (size.toNat / descriptorSize) maxImportDescriptors
    reject "PE import directory cannot hold a descriptor" (maximum = 0)
    descriptorTable bytes describe start descriptorSize maximum 0

end Table

variable (rva size : UInt32) (delay : Bool)

def importDescriptors : Except String (List ImportDescriptor) :=
  importTable bytes headers layout (importDescriptor bytes headers layout delay) rva size delay

/-! ## Exports and contracts -/

/-- The loop of `exports` over the names from an index on. -/
def exportNames (names ordinals : ℕ) :
    ℕ → ℕ → List (Option (List UInt8)) → Except String (List (Option (List UInt8)))
  | 0, _, found => .ok found
  | remaining + 1, index, found => do
    let nameRva ← dword bytes (names + index * 4)
    let functionIndex := (← word bytes (ordinals + index * 2)).toNat
    reject "PE export name ordinal is invalid or duplicated" (found[functionIndex]? ≠ some none)
    let offset ← layoutRvaOffset bytes nameRva headers layout
    let name ← asciiString bytes offset "export name"
    exportNames names ordinals remaining (index + 1) (found.set functionIndex (some name))

def exportTarget (rva : UInt32) (forwarderEnd : ℕ) : Except String ExportTarget :=
  if headers.exportRva ≤ rva ∧ rva.toNat < forwarderEnd then do
    let offset ← layoutRvaOffset bytes rva headers layout
    let name ← asciiString bytes offset "export forwarder"
    return .forwarder name
  else .ok (.directRva rva)

/-- The loop of `exports` over the functions from an index on. -/
def exportTargets (functions forwarderEnd : ℕ) (ordinalBase : UInt32) :
    List (Option (List UInt8)) → ℕ → Except String (List Export)
  | [], _ => .ok []
  | name :: names, index => do
    let targetRva ← dword bytes (functions + index * 4)
    if targetRva = 0 then exportTargets functions forwarderEnd ordinalBase names (index + 1) else
    let target ← exportTarget bytes headers layout targetRva forwarderEnd
    reject "PE export ordinal overflows" (2 ^ 32 ≤ ordinalBase.toNat + index)
    let rest ← exportTargets functions forwarderEnd ordinalBase names (index + 1)
    return ⟨ordinalBase + UInt32.ofNat index, name, target⟩ :: rest

def exports : Except String (List Export) :=
  if headers.exportRva = 0 ∧ headers.exportSize = 0 then .ok [] else do
    reject "PE export directory is partially absent or truncated"
      (headers.exportRva = 0 ∨ headers.exportSize < 40)
    let directory ← layoutRvaOffset bytes headers.exportRva headers layout
    let ordinalBase ← dword bytes (directory + 16)
    let functionCount := (← dword bytes (directory + 20)).toNat
    let nameCount := (← dword bytes (directory + 24)).toNat
    reject "PE export inventory exceeds its bound"
      (maxExports < functionCount ∨ functionCount < nameCount ∨ maxExports < nameCount)
    let functions ← layoutRvaOffset bytes (← dword bytes (directory + 28)) headers layout
    let names ← layoutRvaOffset bytes (← dword bytes (directory + 32)) headers layout
    let ordinals ← layoutRvaOffset bytes (← dword bytes (directory + 36)) headers layout
    let exported ← exportNames bytes headers layout names ordinals nameCount 0
      (List.replicate functionCount none)
    let forwarderEnd := headers.exportRva.toNat + headers.exportSize.toNat
    reject "PE export directory RVA overflows" (2 ^ 32 ≤ forwarderEnd)
    exportTargets bytes headers layout functions forwarderEnd ordinalBase exported 0

def parseWindowsPeLoaderContractWithLayout : Except String LoaderContract := do
  let headers ← peHeaders bytes
  let normal ← importDescriptors bytes headers layout headers.normalRva headers.normalSize false
  let delayed ← importDescriptors bytes headers layout headers.delayRva headers.delaySize true
  let exports ← exports bytes headers layout
  return ⟨headers.machine, normal, delayed, exports⟩

def parseWindowsPeLoaderContract : Except String LoaderContract :=
  parseWindowsPeLoaderContractWithLayout bytes .file

def parseWindowsPeMappedLoaderContract : Except String LoaderContract :=
  parseWindowsPeLoaderContractWithLayout bytes .mappedImage

/-! ## The equivalent table of relative addresses -/

/-- What a delay-import descriptor says. -/
structure DelayFields where
  rvaBased : Bool
  name : UInt32
  iat : UInt32
  lookup : UInt32
  boundTimestamp : UInt32
  deriving DecidableEq

def delayFields (offset : ℕ) : Except String DelayFields := do
  let attributes ← dword bytes offset
  let name ← dword bytes (offset + 4)
  let iat ← dword bytes (offset + 12)
  let lookup ← dword bytes (offset + 16)
  let boundTimestamp ← dword bytes (offset + 28)
  return ⟨attributes &&& 1 != 0, name, iat, lookup, boundTimestamp⟩

/-- The same descriptor with relative addresses, each converted once. Without a lookup table the one
it has is the import address table. -/
def DelayFields.relative (f : DelayFields) : Except String DelayFields := do
  let name ← vaOrRva f.name headers.imageBase f.rvaBased "name"
  let iat ← vaOrRva f.iat headers.imageBase f.rvaBased "IAT"
  let lookup ← (if f.lookup = 0 then .ok iat
    else vaOrRva f.lookup headers.imageBase f.rvaBased "lookup table")
  return { f with rvaBased := true, name, iat, lookup }

/-- The import that a descriptor of relative addresses describes. -/
def DelayFields.descriptor (f : DelayFields) (index : ℕ) : Except String ImportDescriptor := do
  reject "PE import descriptor has no DLL name" (f.name = 0)
  let dll ← dllName bytes (← layoutRvaOffset bytes f.name headers layout)
  let symbols ← importSymbols bytes headers layout f.lookup
  return ⟨UInt32.ofNat index, dll, symbols, f.lookup, f.iat, f.boundTimestamp⟩

/-- The descriptors of a delay-import table as they stand in the image. -/
def delayTable : Except String (List DelayFields) :=
  importTable bytes headers layout (fun _ offset => delayFields bytes offset) rva size true

/-- The imports of the equivalent table of relative addresses. -/
def relativeImports : Except String (List ImportDescriptor) :=
  importTable bytes headers layout (fun index offset => do
      let f ← delayFields bytes offset
      (← f.relative headers).descriptor bytes headers layout index)
    rva size true

variable {bytes rva size headers layout}

theorem vaOrRva_eq_ok {v r : UInt32} {base : UInt64} {rvaBased : Bool} {s : String} :
    vaOrRva v base rvaBased s = .ok r ↔
      if rvaBased = true ∨ v = 0 then r = v else r.toNat + base.toNat = v.toNat := by
  unfold vaOrRva
  split_ifs with h
  · simp [eq_comm]
  · simp only [okOr_bind_eq_ok, checkedSub_eq_some, reject_bind_eq_ok, pure_eq_ok,
      ← UInt32.toNat_inj]
    have hv := v.toNat_lt
    constructor
    · rintro ⟨_, ⟨hle, rfl⟩, hlt, hr⟩
      rw [hr, UInt32.toNat_ofNat', Nat.mod_eq_of_lt (by omega)]
      omega
    · intro hr
      refine ⟨r.toNat, ⟨by omega, by omega⟩, by omega, by simp⟩

/-- An address is its own conversion where there is nothing to convert. -/
theorem vaOrRva_self {v : UInt32} {base : UInt64} {rvaBased : Bool} {s : String} :
    vaOrRva v base rvaBased s = .ok v ↔ rvaBased = true ∨ v = 0 ∨ base = 0 := by
  rw [vaOrRva_eq_ok, ← UInt64.toNat_inj, UInt64.toNat_zero]
  split_ifs with h
  · simp only [true_iff]
    tauto
  · simp only [not_or] at h
    simp [h]

/-- The parser reads a descriptor as its equivalent unless it converts an address twice. -/
theorem importDescriptor_eq_ok {offset index : ℕ} {f g : DelayFields} {d : ImportDescriptor}
    (hf : delayFields bytes offset = .ok f) (hg : f.relative headers = .ok g)
    (hd : g.descriptor bytes headers layout index = .ok d) :
    importDescriptor bytes headers layout true index offset = .ok d ↔
      (f.lookup = 0 → f.rvaBased = true ∨ headers.imageBase = 0) := by
  simp only [delayFields, bind_eq_ok, pure_eq_ok] at hf
  obtain ⟨attributes, hattributes, name, hname, iat, hiat, lookup, hlookup, timestamp, htimestamp,
    rfl⟩ := hf
  simp only [DelayFields.relative, bind_eq_ok, pure_eq_ok] at hg
  obtain ⟨nameRva, hnameRva, iatRva, hiatRva, table, htable, rfl⟩ := hg
  simp only [DelayFields.descriptor, bind_eq_ok, pure_eq_ok] at hd
  obtain ⟨⟨⟩, hnonzero, at_, hat, dll, hdll, symbols, hsymbols, rfl⟩ := hd
  simp only [importDescriptor, if_true, bind_eq_ok, pure_eq_ok, hattributes, hname, hiat, hlookup,
    htimestamp, hnameRva, hiatRva, hat, hdll, hnonzero, Except.map, Except.ok.injEq,
    exists_eq_left', ImportDescriptor.mk.injEq, exists_const, true_and, and_true]
  by_cases hzero : lookup = 0
  · obtain rfl : iatRva = table := by simpa [hzero] using htable
    have htable : iatRva ≠ 0 := by
      rintro rfl
      simp [importSymbols, reject, bind, Except.bind] at hsymbols
    rw [if_pos hzero]
    constructor
    · rintro ⟨l, hl, -, -, -, rfl⟩ -
      exact (vaOrRva_self.1 hl).imp_right (Or.resolve_left · htable)
    · intro h
      exact ⟨_, vaOrRva_self.2 ((h hzero).imp_right .inr), symbols, hsymbols, rfl, rfl⟩
  · rw [if_neg hzero] at htable ⊢
    exact iff_of_true ⟨table, htable, symbols, hsymbols, rfl, rfl⟩ (absurd · hzero)

/-- Two readings of a table agree exactly where they agree on each of its descriptors. -/
theorem descriptorTable_eq_ok {α β : Type} {raw : ℕ → ℕ → Except String α}
    {code spec : ℕ → ℕ → Except String β} {P : α → Prop}
    (hstep : ∀ {index offset f d}, raw index offset = .ok f → spec index offset = .ok d →
      (code index offset = .ok d ↔ P f)) {start width n index : ℕ} {fs : List α} {ds : List β}
    (hraw : descriptorTable bytes raw start width n index = .ok fs)
    (hspec : descriptorTable bytes spec start width n index = .ok ds) :
    descriptorTable bytes code start width n index = .ok ds ↔ ∀ f ∈ fs, P f := by
  induction n generalizing index fs ds with
  | zero => simp [descriptorTable] at hraw
  | succ n ih =>
    unfold descriptorTable at hraw hspec ⊢
    simp only [bind_eq_ok] at hraw
    obtain ⟨offset, hoffset, descriptor, hslice, hraw⟩ := hraw
    simp only [bind_eq_ok, hoffset, hslice, Except.ok.injEq, exists_eq_left'] at hspec ⊢
    split_ifs at hraw hspec ⊢ with hend
    · cases hraw
      simp [hspec]
    · simp only [bind_eq_ok, pure_eq_ok] at hraw hspec
      obtain ⟨f, hf, fs, hfs, rfl⟩ := hraw
      obtain ⟨d, hd, ds, hds, rfl⟩ := hspec
      simp only [bind_eq_ok, pure_eq_ok, List.cons.injEq, List.forall_mem_cons,
        ← ih hfs hds, ← hstep hf hd]
      aesop

/-- **The delay imports are those of the equivalent table of relative addresses exactly when no
descriptor without a lookup table has virtual addresses**, unless the image base is zero. -/
theorem delayImports_exact {fs : List DelayFields} {ds : List ImportDescriptor}
    (hraw : delayTable bytes headers layout rva size = .ok fs)
    (hspec : relativeImports bytes headers layout rva size = .ok ds) :
    importDescriptors bytes headers layout rva size true = .ok ds ↔
      ∀ f ∈ fs, f.lookup = 0 → f.rvaBased = true ∨ headers.imageBase = 0 := by
  simp only [delayTable, relativeImports, importDescriptors, importTable, if_true] at hraw hspec ⊢
  split_ifs at hraw hspec ⊢ with habsent
  · cases hraw
    simp [hspec]
  · simp only [bind_eq_ok] at hraw
    obtain ⟨⟨⟩, hpresent, start, hstart, ⟨⟩, hmaximum, hraw⟩ := hraw
    simp only [bind_eq_ok, hpresent, hstart, hmaximum, Except.ok.injEq, exists_eq_left',
      exists_const, true_and] at hspec ⊢
    refine descriptorTable_eq_ok (fun hf hd => ?_) hraw hspec
    simp only [bind_eq_ok, hf, Except.ok.injEq, exists_eq_left'] at hd
    obtain ⟨g, hg, hd⟩ := hd
    exact importDescriptor_eq_ok hf hg hd

/-! ### An image with virtual addresses -/

/-- The little-endian bytes of a number of four bytes. -/
def leBytes (n : ℕ) : List UInt8 := (List.range 4).map fun i => UInt8.ofNat (n / 256 ^ i)

/-- An image with base 0x10000 whose headers hold everything, with the given attributes, name and
address table in its one delay-import descriptor, which has no lookup table. It imports the first
ordinal of `A`. -/
def delayImage (attributes name iat : ℕ) : List UInt8 :=
  [[77, 90], List.replicate 58 0, leBytes 64,
    [80, 69, 0, 0, 0x64, 0x86, 0, 0], List.replicate 12 0, [224, 0, 0, 0],
    [0x0b, 0x02], List.replicate 22 0, leBytes 0x10000, leBytes 0, List.replicate 28 0, leBytes 400,
    List.replicate 44 0, leBytes 16, List.replicate 104 0, leBytes 312, leBytes 64,
    leBytes attributes, leBytes name, leBytes 0, leBytes iat, List.replicate 16 0,
    List.replicate 32 0, [65], List.replicate 7 0, [1, 0, 0, 0, 0, 0, 0, 128],
    List.replicate 8 0].flatten

def virtualImage : List UInt8 := delayImage 0 (0x10000 + 376) (0x10000 + 384)

/-- The same image with relative addresses. -/
def relativeImage : List UInt8 := delayImage 1 376 384

def delayHeaders : PeHeaders := ⟨machineAmd64, 0x10000, 400, [], 0, 0, 0, 0, 312, 64⟩

/-- The import of both images. -/
def delayImport : ImportDescriptor := ⟨0, [65], [.ordinal 1], 384, 384, 0⟩

theorem delayTable_relativeImage : delayTable relativeImage delayHeaders .file 312 64 =
    .ok [⟨true, 376, 384, 0, 0⟩] := by decide +kernel

theorem relativeImports_relativeImage :
    relativeImports relativeImage delayHeaders .file 312 64 = .ok [delayImport] := by
  decide +kernel

theorem delayImports_exact_relativeImage :
    importDescriptors relativeImage delayHeaders .file 312 64 true = .ok [delayImport] ↔
      ∀ f ∈ [(⟨true, 376, 384, 0, 0⟩ : DelayFields)],
        f.lookup = 0 → f.rvaBased = true ∨ delayHeaders.imageBase = 0 :=
  delayImports_exact delayTable_relativeImage relativeImports_relativeImage

/-- The image with relative addresses is read. In the other one, which means the same imports, the
address of the import address table is converted twice and found to precede the image base. -/
theorem delayImports_converted_twice :
    parseWindowsPeLoaderContract relativeImage = .ok ⟨machineAmd64, [], [delayImport], []⟩ ∧
      peHeaders virtualImage = .ok delayHeaders ∧
      relativeImports virtualImage delayHeaders .file 312 64 = .ok [delayImport] ∧
      parseWindowsPeLoaderContract virtualImage =
        .error "PE delay import lookup table precedes image base" := by
  decide +kernel

end MemCordon.WindowsPe
