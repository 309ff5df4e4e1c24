import LineShell.Text

/-!
# What a file holds

The rules of files without structure: `Content.resize` cuts or fills up with NUL, `Content.writeAt` writes over what is
there and fills a gap with NUL, `Content.readAt` stops at the end.
-/

namespace LineShell

namespace Content

/-- Lengths are below this, the number of 64-bit words. -/
def lengthLimit : Nat := 0x10000000000000000

/-- Bytes cut, or filled up with NUL, to a length. -/
def resize (content : Bytes) (length : Nat) : Bytes :=
  content.take length ++ List.replicate (length - content.length) 0

/-- Bytes with `data` written over them from `offset` on; a gap before `offset` holds NUL. -/
def writeAt (content : Bytes) (offset : Nat) (data : Bytes) : Bytes :=
  resize content offset ++ data ++ content.drop (offset + data.length)

/-- Up to `count` bytes from `offset` on. -/
def readAt (content : Bytes) (offset count : Nat) : Bytes :=
  (content.drop offset).take count

end Content

end LineShell
