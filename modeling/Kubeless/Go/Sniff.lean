import Mathlib.Data.List.Infix
import Kubeless.Go.Encoding

/-!
# Content Sniffing

`uploadFunction` decides whether a function file is stored as text or as base64 by asking
`http.DetectContentType` and testing whether the answer contains `text/plain`. This module
models the sniffer: it looks at the first 512 bytes only, tries the signature table of
`net/http` in order (HTML tags, XML, PDF, PostScript, byte-order marks, images, audio and
video containers, archives), then the text rule, which accepts any data free of the control
bytes it counts as binary, and falls back to `application/octet-stream`.

## Main results

* `detectContentType_take`: the verdict depends on the first 512 bytes only.
* `isText_detectContentType_iff_of_noSig`: on data matching no signature, the verdict is
  text exactly when the data after leading white space has no binary control byte — in
  particular bytes `0x80`–`0xFF` count as text.
-/

namespace Kubeless.Go

/-- `strings.Contains(s, substr)`. -/
def stringsContains (s substr : String) : Bool :=
  decide (substr.data <:+: s.data)

/-- The white space the sniffer skips before the signatures that allow it. -/
def isWS (b : UInt8) : Bool :=
  b = 0x09 ∨ b = 0x0A ∨ b = 0x0C ∨ b = 0x0D ∨ b = 0x20

/-- The bytes the text rule counts as binary. -/
def isBinary (b : UInt8) : Bool :=
  b.toNat ≤ 0x08 ∨ b = 0x0B ∨ (0x0E ≤ b.toNat ∧ b.toNat ≤ 0x1A) ∨ (0x1C ≤ b.toNat ∧ b.toNat ≤ 0x1F)

/-- The ASCII bytes of a signature written as a string. -/
def ascii (s : String) : Bytes := s.data.map fun c => UInt8.ofNat c.toNat

/-- A row of the sniffing table: `exactSig`, `maskedSig`, `htmlSig` and `mp4Sig`. -/
inductive SniffSig
  | exact (sig : Bytes) (ct : String)
  | masked (mask pat : Bytes) (skipWS : Bool) (ct : String)
  | html (tag : Bytes)
  | mp4

/-- `maskedSig.match` on the (possibly white-space-stripped) data. -/
def maskedMatch (mask pat data : Bytes) : Bool :=
  pat.length = mask.length ∧ mask.length ≤ data.length ∧
    (List.zipWith (· &&& ·) data mask) = pat

/-- `htmlSig.match`: the tag, upper-case letters compared case-insensitively, then a space
or `>`. -/
def htmlMatch (tag data : Bytes) : Bool :=
  tag.length + 1 ≤ data.length ∧
    (List.zipWith (fun b d => if 65 ≤ b.toNat ∧ b.toNat ≤ 90 then d &&& 0xDF else d) tag data)
      = tag ∧
    (data.getD tag.length 0 = 0x20 ∨ data.getD tag.length 0 = 0x3E)

/-- The big-endian value of four bytes, `binary.BigEndian.Uint32`. -/
def bigEndian32 (b : Bytes) : Nat :=
  b.foldl (fun acc x => acc * 256 + x.toNat) 0

/-- `mp4Sig.match`: an `ftyp` box whose size is a multiple of four and fits the data, with
`mp4` among its brands (the word at offset 12, the minor version, is skipped). -/
def mp4Match (data : Bytes) : Bool :=
  let boxSize := bigEndian32 (data.take 4)
  12 ≤ data.length ∧ boxSize % 4 = 0 ∧ boxSize ≤ data.length ∧
    (data.drop 4).take 4 = ascii "ftyp" ∧
    (List.range ((boxSize - 8) / 4)).any fun j =>
      8 + 4 * j ≠ 12 ∧ (data.drop (8 + 4 * j)).take 3 = ascii "mp4"

/-- The content type a row gives `data`, or `none`; `skipped` is `data` after its leading
white space. -/
def SniffSig.matches (data skipped : Bytes) : SniffSig → Option String
  | .exact sig ct => if sig <+: data then some ct else none
  | .masked mask pat skipWS ct =>
      if maskedMatch mask pat (if skipWS then skipped else data) then some ct else none
  | .html tag => if htmlMatch tag skipped then some "text/html; charset=utf-8" else none
  | .mp4 => if mp4Match data then some "video/mp4" else none

/-- The signature table of `net/http`, tried in order before the text rule. -/
def sniffSignatures : List SniffSig :=
  ["<!DOCTYPE HTML", "<HTML", "<HEAD", "<SCRIPT", "<IFRAME", "<H1", "<DIV", "<FONT",
    "<TABLE", "<A", "<STYLE", "<TITLE", "<B", "<BODY", "<BR", "<P", "<!--"].map
      (fun t => .html (ascii t)) ++
  [.masked [0xFF, 0xFF, 0xFF, 0xFF, 0xFF] (ascii "<?xml") true "text/xml; charset=utf-8",
    .exact (ascii "%PDF-") "application/pdf",
    .exact (ascii "%!PS-Adobe-") "application/postscript",
    .masked [0xFF, 0xFF, 0, 0] [0xFE, 0xFF, 0, 0] false "text/plain; charset=utf-16be",
    .masked [0xFF, 0xFF, 0, 0] [0xFF, 0xFE, 0, 0] false "text/plain; charset=utf-16le",
    .masked [0xFF, 0xFF, 0xFF, 0] [0xEF, 0xBB, 0xBF, 0] false "text/plain; charset=utf-8",
    .exact (ascii "GIF87a") "image/gif",
    .exact (ascii "GIF89a") "image/gif",
    .exact [0x89, 0x50, 0x4E, 0x47, 0x0D, 0x0A, 0x1A, 0x0A] "image/png",
    .exact [0xFF, 0xD8, 0xFF] "image/jpeg",
    .exact (ascii "BM") "image/bmp",
    .masked [0xFF, 0xFF, 0xFF, 0xFF, 0, 0, 0, 0, 0xFF, 0xFF, 0xFF, 0xFF, 0xFF, 0xFF]
      (ascii "RIFF" ++ [0, 0, 0, 0] ++ ascii "WEBPVP") false "image/webp",
    .exact [0, 0, 1, 0] "image/vnd.microsoft.icon",
    .masked [0xFF, 0xFF, 0xFF, 0xFF, 0, 0, 0, 0, 0xFF, 0xFF, 0xFF, 0xFF]
      (ascii "RIFF" ++ [0, 0, 0, 0] ++ ascii "WAVE") false "audio/wave",
    .exact [0x1A, 0x45, 0xDF, 0xA3] "video/webm",
    .exact [0x52, 0x61, 0x72, 0x20, 0x1A, 0x07, 0x00] "application/x-rar-compressed",
    .exact [0x50, 0x4B, 0x03, 0x04] "application/zip",
    .exact [0x1F, 0x8B, 0x08] "application/x-gzip",
    .mp4]

/-- `textSig.match`: text when no byte after the leading white space is binary. -/
def textMatch (skipped : Bytes) : Option String :=
  if skipped.any isBinary then none else some "text/plain; charset=utf-8"

/-- `http.DetectContentType(data)`: the first row of the table that matches the first 512
bytes, else the text rule, else `application/octet-stream`. -/
def detectContentType (data : Bytes) : String :=
  let head := data.take 512
  let skipped := head.dropWhile isWS
  match sniffSignatures.findSome? (·.matches head skipped) with
  | some ct => ct
  | none => (textMatch skipped).getD "application/octet-stream"

/-- **Only the first 512 bytes are sniffed.** -/
theorem detectContentType_take (data : Bytes) :
    detectContentType (data.take 512) = detectContentType data := by
  simp [detectContentType, List.take_take]

/-- The verdict `uploadFunction` acts on: the content type contains `text/plain`. -/
def isText (ct : String) : Bool := stringsContains ct "text/plain"

/-- On data that no signature matches, the sniffer answers text exactly when no byte after
the leading white space of the first 512 is binary. -/
theorem isText_detectContentType_iff_of_noSig {data : Bytes}
    (h : sniffSignatures.findSome? (·.matches (data.take 512) ((data.take 512).dropWhile isWS))
      = none) :
    isText (detectContentType data) = !((data.take 512).dropWhile isWS).any isBinary := by
  have hb : isText "application/octet-stream" = false := by decide
  have ht : isText "text/plain; charset=utf-8" = true := by decide
  simp only [detectContentType, h, textMatch]
  split <;> simp_all

end Kubeless.Go
