/-!
# Bytes and text

Files, pipes and terminals carry bytes; everything the shell decides about is text. This module
holds the passage between the two (UTF-8) and the division of a text into lines.
-/

namespace LineShell

/-- A run of bytes, as a file holds it or a pipe carries it. -/
abbrev Bytes := List UInt8

/-- The bytes of an array. -/
def bytesOf (data : ByteArray) : Bytes := data.data.toList

namespace Text

/-- The UTF-8 form of a list of characters. -/
def encodeChars (cs : List Char) : Bytes := cs.flatMap String.utf8EncodeChar

/-- The UTF-8 form of a text. -/
def encode (s : String) : Bytes := encodeChars s.toList

/-- The text that the bytes are the UTF-8 form of, if there is one. -/
def decode? (bs : Bytes) : Option String := String.fromUTF8? bs.toByteArray

/-- The character whose UTF-8 form the bytes begin with, if there is one. -/
def decodeChar? (bs : Bytes) : Option Char := bs.toByteArray.utf8DecodeChar? 0

/-- The number of bytes of a text's UTF-8 form. -/
def byteLength (s : String) : Nat := s.utf8ByteSize

/-- A list, last element first, without a carriage return at that end. -/
def dropReturn : List Char → List Char
  | '\r' :: cs => cs
  | cs => cs

/-- The lines of `cs`, where `line` is the part of the current line already seen, last character
first. A line ends with a line feed and loses that and one carriage return before it; the text
after the last line feed is a line if it is not empty, and keeps everything. -/
def linesFrom : List Char → List Char → List (List Char)
  | [], [] => []
  | line, [] => [line.reverse]
  | line, c :: cs =>
    if c = '\n' then (dropReturn line).reverse :: linesFrom [] cs
    else linesFrom (c :: line) cs

/-- The lines of a text. -/
def lines (s : String) : List String := (linesFrom [] s.toList).map String.ofList

end Text

end LineShell
