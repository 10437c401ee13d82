import PageScript.Report.Summary
import PageScript.Text.Lowercase

/-!
# The page of a report

The page shows a report in HTML.  It is put together from pieces: *markup*, which is fixed, *plain*
words, which are numbers and truth values, and *text*, which comes from the run.  `render` escapes
text and writes everything else as it is, so nothing that a run says can become markup; `unescape`
reads an escaped text back.
-/

namespace PageScript.Report

open PageScript.Text PageScript.Number

/-! ### Escaping -/

/-- One character of an escaped text. -/
def escapeChar (c : Char) : List Char :=
  if c = '&' then ['&', 'a', 'm', 'p', ';']
  else if c = '<' then ['&', 'l', 't', ';']
  else if c = '>' then ['&', 'g', 't', ';']
  else if c = '"' then ['&', 'q', 'u', 'o', 't', ';']
  else if c = '\x27' then ['&', '#', 'x', '2', '7', ';']
  else [c]

/-- A text without the characters that markup is made of. -/
def escape (s : String) : String := String.ofList (s.toList.flatMap escapeChar)

/-- The text that escaped characters stand for. -/
def unescapeChars : List Char → List Char
  | [] => []
  | '&' :: 'a' :: 'm' :: 'p' :: ';' :: cs => '&' :: unescapeChars cs
  | '&' :: 'l' :: 't' :: ';' :: cs => '<' :: unescapeChars cs
  | '&' :: 'g' :: 't' :: ';' :: cs => '>' :: unescapeChars cs
  | '&' :: 'q' :: 'u' :: 'o' :: 't' :: ';' :: cs => '"' :: unescapeChars cs
  | '&' :: '#' :: 'x' :: '2' :: '7' :: ';' :: cs => '\x27' :: unescapeChars cs
  | c :: cs => c :: unescapeChars cs

/-- The text that an escaped text stands for. -/
def unescape (s : String) : String := String.ofList (unescapeChars s.toList)

/-! ### Pieces -/

/-- A piece of a page. -/
inductive Piece
  | markup (s : String)
  | plain (s : String)
  | text (s : String)
  deriving DecidableEq, Repr

/-- A written piece. -/
def Piece.render : Piece → String
  | markup s | plain s => s
  | text s => escape s

/-- A written page. -/
def render (pieces : List Piece) : String := String.join (pieces.map Piece.render)

/-! ### Parts of the page -/

/-- The colour of a status. -/
def colour (status : String) : String :=
  if status = "passed" then "#16a34a"
  else if status = "failed" then "#dc2626"
  else if status = "running" then "#2563eb"
  else "#6b7280"

/-- A status as a coloured badge. -/
def badge (status : String) : List Piece :=
  [.markup ("<span style=\"background:" ++ colour status
    ++ ";color:#fff;border-radius:8px;padding:2px 8px;font-size:12px\">"),
   .text status, .markup "</span>"]

/-- A value in a table: nothing where it is absent. -/
def cellText : Value → String
  | .absent => ""
  | value => value.shown

/-- The row of a step. -/
def stepRow (s : Step) (duration : Float) : List Piece :=
  [.markup "<tr><td>", .plain (toString s.index),
   .markup "</td><td><code>--", .text s.name,
   .markup "</code></td><td><code>", .text (cellText s.value),
   .markup "</code></td><td>", .plain (seconds duration), .markup "</td><td>"]
  ++ badge s.standing.text
  ++ [.markup "</td><td>", .text (s.error.getD ""), .markup "</td></tr>"]

/-- How the paths of pictures end. -/
def pictureEndings : List String := [".png", ".jpg", ".jpeg"]

/-- Whether a path is that of a picture. -/
def isPicture (path : String) : Bool :=
  pictureEndings.any fun ending => ending.toList.isSuffixOf (lowerChars (escape path).toList)

/-- The row of an artifact, with the picture itself if it is one. -/
def artifactRow (a : Artifact) : List Piece :=
  [.markup "<tr><td>", .text a.kind,
   .markup "</td><td><a href=\"", .text a.path, .markup "\" target=\"_blank\">", .text a.path,
   .markup "</a>"]
  ++ (if isPicture a.path then
    [.markup "<div><img src=\"", .text a.path,
     .markup "\" style=\"max-width:320px;border:1px solid #ddd;margin-top:4px\"/></div>"]
    else [])
  ++ [.markup "</td></tr>"]

/-- The rows of the artifacts, or a row that says there are none. -/
def artifactRows : List Artifact → List Piece
  | [] => [.markup "<tr><td colspan=\"2\">No artifacts</td></tr>"]
  | artifacts => artifacts.flatMap artifactRow

/-- The style sheet. -/
def styles : String :=
  "<style>\n"
    ++ " body\x7bfont-family:Arial,Helvetica,sans-serif;margin:24px\x7d\n"
    ++ " table\x7bborder-collapse:collapse;width:100%\x7d\n"
    ++ " th,td\x7bborder:1px solid #e5e7eb;padding:8px;text-align:left\x7d\n"
    ++ " th\x7bbackground:#f3f4f6\x7d\n"
    ++ " code\x7bbackground:#f3f4f6;padding:1px 4px;border-radius:4px\x7d\n"
    ++ "</style>\n"

/-- The page of a report whose browser has a name. -/
def pieces (r : Report) (browser : String) (total : Float) (durations : List Float) :
    List Piece :=
  let url := r.url.getD ""
  [.markup ("<!doctype html>\n<html lang=\"en\"><head>\n<meta charset=\"utf-8\"/>\n"
      ++ "<title>Run Report – "),
   .text url,
   .markup ("</title>\n" ++ styles ++ "</head><body>\n<h2>Run Report – "), .text url,
   .markup "</h2>\n<div><b>Browser:</b> ", .text browser,
   .markup " | <b>Headed:</b> ", .plain (flagText r.headed),
   .markup "</div>\n<div><b>Status:</b> "]
  ++ badge r.status
  ++ [.markup "</div>\n<div><b>Error:</b> ", .text (errorOrDash r.error),
      .markup "</div>\n<div><b>Duration:</b> ", .plain (seconds total),
      .markup ("</div>\n\n<h3>Steps</h3>\n<table>\n"
        ++ "  <thead><tr><th>#</th><th>Argument</th><th>Value</th><th>Time</th><th>Status</th>"
        ++ "<th>Error</th></tr></thead>\n  <tbody>")]
  ++ ((r.steps.zip durations).flatMap fun (s, duration) => stepRow s duration)
  ++ [.markup ("</tbody>\n</table>\n\n<h3>Artifacts</h3>\n<table>\n"
        ++ "  <thead><tr><th>Type</th><th>Path</th></tr></thead>\n  <tbody>")]
  ++ artifactRows r.artifacts
  ++ [.markup "</tbody>\n</table>\n</body></html>"]

/-! ### Small facts -/

@[simp] theorem render_nil : render [] = "" := rfl

@[simp] theorem render_cons (p : Piece) (ps : List Piece) :
    render (p :: ps) = p.render ++ render ps := by
  simp [render]

@[simp] theorem render_append (ps qs : List Piece) :
    render (ps ++ qs) = render ps ++ render qs := by
  simp [render]

example : escape "<a href='x'>" = "&lt;a href=&#x27;x&#x27;&gt;" := by decide
example : unescape (escape "&lt;<'\">") = "&lt;<'\">" := by decide

end PageScript.Report
