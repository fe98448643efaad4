/-!
# Positions and spans

A position packs a file number and an offset into one word: the low 22 bits are the offset, the
bits above them the file, so there are 1024 files of four megabytes each.  A span is a pair of
positions.
-/

namespace CDecl

/-- A file number and an offset into that file, packed into one word. -/
structure Position where
  packed : UInt32
deriving DecidableEq, Inhabited

namespace Position

/-- The mask of the offset bits; a file holds at most four megabytes. -/
def offsetMask : UInt32 := 0x3FFFFF

/-- The position at `offset` of `file`. -/
def pack (file offset : UInt32) : Position :=
  ⟨file <<< 22 ||| (offset &&& offsetMask)⟩

/-- The file a position points into. -/
def file (p : Position) : UInt32 := p.packed >>> 22

/-- The offset of a position within its file. -/
def offset (p : Position) : UInt32 := p.packed &&& offsetMask

end Position

/-- A stretch of source text; the start decides which file it lies in. -/
structure Span where
  start : Position
  stop : Position
deriving DecidableEq, Inhabited

namespace Span

/-- The span that stands for "nowhere". -/
def empty : Span := ⟨⟨0⟩, ⟨0⟩⟩

/-- The span of the offsets `start` to `stop` in one file. -/
def ofOffsets (file start stop : UInt32) : Span :=
  ⟨.pack file start, .pack file stop⟩

/-- Whether a span covers no text. -/
def isEmpty (s : Span) : Bool := s.start == s.stop

/-- The offsets of a span, as `start..stop`. -/
def range (s : Span) : String :=
  toString s.start.offset ++ ".." ++ toString s.stop.offset

/-- A span with its file, as `file:start..stop`. -/
def text (s : Span) : String :=
  toString s.start.file ++ ":" ++ s.range

/-- The long form of a span, which names its parts. -/
def description (s : Span) : String :=
  "SourceSpan(fileid=" ++ toString s.start.file ++ ", offset=" ++ s.range ++ ")"

end Span

end CDecl
