import Mathlib.Data.List.TakeWhile

namespace MeshNetwork.Driver

/-- A text file that is open for reading: its characters, and those still to be read. -/
structure HostFile where
  content : List UInt8
  rest : List UInt8
  deriving DecidableEq, Repr

/-- The characters that `%s` skips and stops at. -/
def isSpace (c : UInt8) : Bool := c = 0x20 ∨ 0x09 ≤ c ∧ c ≤ 0x0D

/-- An entry of the hostfile: what getHostFileEntry can deliver. -/
structure HostLine where
  chars : List UInt8
  nonempty : chars ≠ []
  short : chars.length ≤ 25
  nonBlank : ∀ c ∈ chars, isSpace c = false
  noNul : 0 ∉ chars

namespace HostFile

/-- `fopen(name, "r")` -/
def ofContent (content : List UInt8) : HostFile := ⟨content, content⟩

/-- `fscanf(fp, "%25s", line)`: what is stored in `line`, `none` at the end of the file. -/
def fscanf (f : HostFile) : Option (List UInt8) × HostFile :=
  let rest := f.rest.dropWhile isSpace
  let token := (rest.takeWhile fun c => !isSpace c).take 25
  (if token = [] then none else some token, { f with rest := rest.drop token.length })

def rewind (f : HostFile) : HostFile := { f with rest := f.content }

end HostFile

/-- The member `fp`, and what has become of the FILE it points to. -/
inductive FilePtr where
  | null
  | opened (f : HostFile)
  | closed
  deriving DecidableEq, Repr

namespace FilePtr

def isClosed : FilePtr → Bool
  | .closed => true
  | _ => false

def isOpened : FilePtr → Bool
  | .opened _ => true
  | _ => false

/-- Without an open FILE, `line` may get anything. -/
def fscanf (line : Option (List UInt8)) : FilePtr → Option (List UInt8) × FilePtr
  | .opened f => (f.fscanf.1, .opened f.fscanf.2)
  | fp => (line, fp)

def rewind : FilePtr → FilePtr
  | .opened f => .opened f.rewind
  | fp => fp

/-- `fclose`, which ends the program on a null pointer and on a FILE that has been closed. -/
def fclose : FilePtr → Option FilePtr
  | .opened _ => some .closed
  | _ => none

@[simp] theorem fscanf_isClosed (line : Option (List UInt8)) (fp : FilePtr) :
    (fp.fscanf line).2.isClosed = fp.isClosed := by
  cases fp <;> rfl

@[simp] theorem rewind_isClosed (fp : FilePtr) : fp.rewind.isClosed = fp.isClosed := by
  cases fp <;> rfl

theorem fclose_eq_some {fp fp' : FilePtr} (h : fp.fclose = some fp') :
    fp.isOpened = true ∧ fp.isClosed = false ∧ fp'.isClosed = true := by
  cases fp with
  | opened f =>
    obtain rfl := Option.some.inj h
    exact ⟨rfl, rfl, rfl⟩
  | null => cases h
  | closed => cases h

end FilePtr

/-- The next access of getHostFileEntry to the file. -/
inductive HostPhase where
  | first
  | rewind
  | again
  deriving DecidableEq, Repr

/-- `line[0] == 0x00` does not hold after the first fscanf: the entry has been read. -/
def hasEntry (line : Option (List UInt8)) : Bool := line.any fun token => token.getD 0 0 ≠ 0

end MeshNetwork.Driver
