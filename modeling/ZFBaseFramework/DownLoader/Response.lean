import ZFBaseFramework.Library.DecimalText
import ZFBaseFramework.DownLoader.World

/-!
# The length read from a response

`didReceiveResponse` condenses the headers of a reply to the number `_totalSize`:
the value of `Content-Length`, replaced by the text after the last `/` of
`Content-Range` when that header is present. The reader of such a number gives
zero for a text without digits, so an absent length and a `*` total both read as
zero. `StatedReply` is a reply with headers of the forms HTTP defines, and
`StatedReply.totalSize_render` says what the code reads from it.
-/

namespace ZFBaseFramework

namespace NSHTTPURLResponse

/-- `[allHeaderFields[key] longLongValue]`; a message to nil gives zero. -/
def longLongValue : Option String → ℤ
  | none => 0
  | some text => DecimalText.signedDecimal text.toList

/-- `[[text componentsSeparatedByString:@"/"] lastObject]` -/
def lastSlashComponent (text : String) : String :=
  String.ofList (DecimalText.lastComponent '/' text.toList)

/-- The value `didReceiveResponse` assigns to `_totalSize`. -/
def totalSize (response : NSHTTPURLResponse) : ℤ :=
  match response.contentRange with
  | none => longLongValue response.contentLength
  | some range => longLongValue (some (lastSlashComponent range))

end NSHTTPURLResponse

/-- A `Content-Range` header. -/
inductive StatedRange where
  /-- `bytes first-last/total`, with `*` for an unstated total. -/
  | span (first last : ℕ) (total : Option ℕ)
  /-- `bytes */total` -/
  | unsatisfied (total : ℕ)
  deriving DecidableEq

namespace StatedRange

/-- The total as it is written after the slash. -/
def totalText : Option ℕ → String
  | none => "*"
  | some total => toString total

/-- The header's text. -/
def render : StatedRange → String
  | .span first last total =>
      "bytes " ++ toString first ++ "-" ++ toString last ++ "/" ++ totalText total
  | .unsatisfied total => "bytes */" ++ toString total

/-- The stated length of the whole resource. -/
def total : StatedRange → Option ℕ
  | .span _ _ total => total
  | .unsatisfied total => some total

/-- The first byte of the body that follows. -/
def firstByte : StatedRange → Option ℕ
  | .span first _ _ => some first
  | .unsatisfied _ => none

end StatedRange

/-- A reply by its status and by what its length headers state. -/
structure StatedReply where
  statusCode : ℕ
  contentLength : Option ℕ
  contentRange : Option StatedRange
  deriving DecidableEq

namespace StatedReply

/-- The reply as the session hands it over. -/
def render (reply : StatedReply) (url : NSURL) : NSHTTPURLResponse where
  url := url
  statusCode := reply.statusCode
  contentLength := reply.contentLength.map toString
  contentRange := reply.contentRange.map StatedRange.render

/-- The number the code makes of the stated lengths. -/
def readTotal (reply : StatedReply) : ℕ :=
  match reply.contentRange with
  | none => reply.contentLength.getD 0
  | some range => range.total.getD 0

/-- Every stated length is below 2^63. -/
structure Fits (reply : StatedReply) : Prop where
  contentLength : ∀ length, reply.contentLength = some length → length < 2 ^ 63
  total : ∀ range length, reply.contentRange = some range → range.total = some length →
    length < 2 ^ 63

end StatedReply

namespace NSHTTPURLResponse

theorem longLongValue_toString {n : ℕ} (small : n < 2 ^ 63) :
    longLongValue (some (toString n)) = n := by
  simp only [longLongValue, Nat.toString_eq_repr, Nat.toList_repr]
  exact DecimalText.signedDecimal_toDigits small

theorem totalSize_lt (response : NSHTTPURLResponse) : response.totalSize < 2 ^ 63 := by
  have bounded : ∀ text, longLongValue text < 2 ^ 63 := by
    intro text
    cases text with
    | none => decide
    | some text => exact lt_of_le_of_lt (DecimalText.signedDecimal_le _) (by decide)
  rw [totalSize]
  split
  · exact bounded _
  · exact bounded _

theorem lastSlashComponent_append {front back : String} (backFree : '/' ∉ back.toList) :
    lastSlashComponent (front ++ "/" ++ back) = back := by
  have split := DecimalText.lastComponent_append front.toList backFree
  simp only [lastSlashComponent, String.toList_append]
  simpa using congrArg String.ofList split

end NSHTTPURLResponse

namespace StatedRange

theorem slash_not_mem_toString (n : ℕ) : '/' ∉ (toString n).toList := by
  simpa only [Nat.toString_eq_repr, Nat.toList_repr] using
    DecimalText.slash_not_mem_toDigits n

theorem lastSlashComponent_render (range : StatedRange) :
    NSHTTPURLResponse.lastSlashComponent range.render = totalText range.total := by
  cases range with
  | span first last total =>
      apply NSHTTPURLResponse.lastSlashComponent_append
      cases total with
      | none => decide
      | some length => exact slash_not_mem_toString length
  | unsatisfied total =>
      exact @NSHTTPURLResponse.lastSlashComponent_append "bytes *" _
        (slash_not_mem_toString total)

end StatedRange

/-- A stated length is what the code reads of a response. -/
theorem NSHTTPURLResponse.totalSize_of_range {response : NSHTTPURLResponse} {range : StatedRange}
    {length : ℕ} (ranged : response.contentRange = some range.render)
    (total : range.total = some length) (small : length < 2 ^ 63) :
    response.totalSize = length := by
  rw [totalSize, ranged]
  simp only [StatedRange.lastSlashComponent_render, total, StatedRange.totalText]
  exact longLongValue_toString small

/-- The code reads the stated total, and zero where none is stated. -/
theorem StatedReply.totalSize_render {reply : StatedReply} (fits : reply.Fits) (url : NSURL) :
    (reply.render url).totalSize = reply.readTotal := by
  cases ranged : reply.contentRange with
  | none =>
      cases lengthStated : reply.contentLength with
      | none => simp [NSHTTPURLResponse.totalSize, render, readTotal, ranged, lengthStated,
          NSHTTPURLResponse.longLongValue]
      | some length =>
          simp only [NSHTTPURLResponse.totalSize, render, readTotal, ranged, lengthStated,
            Option.map_none, Option.map_some, Option.getD_some]
          exact NSHTTPURLResponse.longLongValue_toString (fits.contentLength length lengthStated)
  | some range =>
      simp only [NSHTTPURLResponse.totalSize, render, readTotal, ranged, Option.map_some,
        StatedRange.lastSlashComponent_render]
      cases totalStated : range.total with
      | none => decide
      | some length =>
          have small := fits.total range length ranged totalStated
          exact NSHTTPURLResponse.longLongValue_toString small

example : (NSHTTPURLResponse.mk ⟨"http://h/a", "a"⟩ 206 (some "3")
    (some "bytes 2-4/5")).totalSize = 5 := by decide

end ZFBaseFramework
