import PageScript.Proofs.Report.Escape
import PageScript.Proofs.Value.Printed

/-!
# Reading the page of a report

A `Reading` of a page goes from character to character.  It knows tags, tables and links, but
nothing of reports, and yet it finds in a page what the report says: a row for each step and each
artifact, and the paths of the artifacts in links and pictures (`read_pieces`).

A text that is escaped neither opens a tag nor closes one, so wherever it stands it is read as a
whole.
-/

namespace PageScript.Report

/-! ### The reader -/

/-- What has been read of a page. -/
structure Reading where
  /-- The tag that is being read. -/
  tag : Option (List Char)
  /-- The cell that is being read. -/
  cell : Option (List Char)
  /-- The row that is being read. -/
  row : List String
  rows : List (List String)
  links : List String
  deriving DecidableEq

namespace Reading

/-- What escaped characters say. -/
def said (cs : List Char) : String := String.ofList (unescapeChars cs)

/-- The first text in quotation marks in a tag. -/
def quoted (tag : List Char) : List Char :=
  ((tag.dropWhile (· != '"')).drop 1).takeWhile (· != '"')

/-- Read a whole tag. -/
def enter (r : Reading) (tag : List Char) : Reading :=
  match tag.takeWhile (· != ' ') with
  | ['t', 'r'] => { r with row := [] }
  | ['/', 't', 'r'] => { r with row := [], rows := r.rows ++ [r.row] }
  | ['t', 'd'] | ['t', 'h'] => { r with cell := some [] }
  | ['/', 't', 'd'] | ['/', 't', 'h'] =>
    { r with cell := none, row := r.row ++ [said (r.cell.getD [])] }
  | ['a'] | ['i', 'm', 'g'] => { r with links := r.links ++ [said (quoted tag)] }
  | _ => r

/-- Read one character. -/
def step (r : Reading) (c : Char) : Reading :=
  match r.tag with
  | some tag =>
    if c = '>' then { r with tag := none }.enter tag else { r with tag := some (tag ++ [c]) }
  | none =>
    if c = '<' then { r with tag := some [] }
    else { r with cell := r.cell.map (· ++ [c]) }

/-- Read a text. -/
def read (r : Reading) (s : String) : Reading := s.toList.foldl step r

/-- What has been read between two rows. -/
def between (rows : List (List String)) (links : List String) : Reading :=
  ⟨none, none, [], rows, links⟩

/-- What has been read inside a cell. -/
def inCell (text : String) (row : List String) (rows : List (List String)) (links : List String) :
    Reading :=
  ⟨none, some (text.toList.flatMap escapeChar), row, rows, links⟩

variable {r : Reading} {text s path : String} {tag : List Char} {row : List String}
  {rows : List (List String)} {links : List String}

theorem read_append (r : Reading) (s t : String) : r.read (s ++ t) = (r.read s).read t := by
  rw [read, String.toList_append, List.foldl_append]
  rfl

/-- What has been read before does not matter. -/
theorem read_after {rows' : List (List String)} {links' : List String}
    (h : (between [] []).read s = between rows' links') (rows : List (List String))
    (links : List String) :
    (between rows links).read s = between (rows ++ rows') (links ++ links') := by
  have hstep (r : Reading) (c : Char) :
      ({ r with rows := rows ++ r.rows, links := links ++ r.links } : Reading).step c =
        { r.step c with rows := rows ++ (r.step c).rows, links := links ++ (r.step c).links } := by
    unfold step
    dsimp only
    split
    · split
      · unfold enter
        split <;> simp
      · rfl
    · split <;> rfl
  have hread (cs : List Char) (r : Reading) :
      cs.foldl step { r with rows := rows ++ r.rows, links := links ++ r.links } =
        let r' := cs.foldl step r
        { r' with rows := rows ++ r'.rows, links := links ++ r'.links } := by
    induction cs generalizing r with
    | nil => rfl
    | cons c cs ih => rw [List.foldl_cons, hstep, ih, List.foldl_cons]
  have hafter := hread s.toList (between [] [])
  rw [show s.toList.foldl step (between [] []) = between rows' links' from h] at hafter
  simpa [between, read] using hafter

theorem said_escape (text : String) : said (text.toList.flatMap escapeChar) = text := by
  rw [said, ← toList_escape]
  exact unescape_escape text

/-! ### Texts -/

/-- Outside of tags a text belongs to the cell, if there is one. -/
theorem read_outside (hr : r.tag = none) (hs : '<' ∉ s.toList) :
    r.read s = { r with cell := r.cell.map (· ++ s.toList) } := by
  rw [read]
  generalize s.toList = cs at hs
  induction cs generalizing r with
  | nil => simp
  | cons c cs ih =>
    have hstep : r.step c = { r with cell := r.cell.map (· ++ [c]) } := by
      rw [step, hr]
      exact if_neg fun hc => hs (by rw [hc]; exact .head _)
    rw [List.foldl_cons, hstep, ih]
    · simp [Function.comp_def]
    · exact hr
    · exact fun hmem => hs (.tail _ hmem)

/-- Inside of a tag it belongs to the tag. -/
theorem read_inside (hr : r.tag = some tag) (hs : '>' ∉ s.toList) :
    r.read s = { r with tag := some (tag ++ s.toList) } := by
  rw [read]
  generalize s.toList = cs at hs
  induction cs generalizing r tag with
  | nil => simp [← hr]
  | cons c cs ih =>
    have hstep : r.step c = { r with tag := some (tag ++ [c]) } := by
      rw [step, hr]
      exact if_neg fun hc => hs (by rw [hc]; exact .head _)
    rw [List.foldl_cons, hstep, ih rfl fun hmem => hs (.tail _ hmem)]
    simp

theorem notMem_escape {c : Char} (hc : isMark c = true) : c ∉ (escape s).toList := by
  intro hmem
  rw [not_isMark_of_mem_escape hmem] at hc
  cases hc

theorem read_text_between (s : String) :
    (between rows links).read (escape s) = between rows links :=
  read_outside rfl (notMem_escape rfl)

theorem read_text (s : String) : (inCell text row rows links).read (escape s) =
    inCell (text ++ s) row rows links := by
  rw [read_outside rfl (notMem_escape rfl), toList_escape, inCell, inCell, String.toList_append,
    List.flatMap_append]
  rfl

theorem read_plain_between (h : Bland s) : (between rows links).read s = between rows links := by
  rw [← escape_of_bland h]
  exact read_text_between s

theorem read_plain (h : Bland s) : (inCell text row rows links).read s =
    inCell (text ++ s) row rows links := by
  have htext : (inCell text row rows links).read (escape s) =
      inCell (text ++ s) row rows links := read_text s
  rwa [escape_of_bland h] at htext

/-! ### Markup -/

/-- Markup that closes a cell and opens another. -/
theorem read_nextCell {markup next : String}
    (h : ∀ cs row, (⟨none, some cs, row, rows, links⟩ : Reading).read markup =
      inCell next (row ++ [said cs]) rows links) (text : String) (row : List String) :
    (inCell text row rows links).read markup = inCell next (row ++ [text]) rows links := by
  rw [inCell, h, said_escape]

theorem read_firstCell : (between rows links).read "<tr><td>" = inCell "" [] rows links := rfl

theorem read_lastCell (text : String) (row : List String) :
    (inCell text row rows links).read "</td></tr>" = between (rows ++ [row ++ [text]]) links := by
  have hchars (cs : List Char) : (⟨none, some cs, row, rows, links⟩ : Reading).read "</td></tr>" =
      between (rows ++ [row ++ [said cs]]) links := rfl
  rw [inCell, hchars, said_escape]

/-- Markup that ends a tag. -/
theorem read_endTag {markup : String} (hr : r.tag = some tag) (h : '>' ∉ markup.toList) :
    r.read (markup ++ ">") = { r with tag := none }.enter (tag ++ markup.toList) := by
  rw [read_append, read_inside hr h]
  rfl

theorem notMem_colour (status : String) : '>' ∉ (colour status).toList := by
  unfold colour
  split
  · decide
  split
  · decide
  split <;> decide

/-- A coloured badge says no more than its status. -/
theorem read_badge (hr : r.tag = none) (status : String) :
    r.read (render (badge status)) = (r.read (escape status)).read "</span>" := by
  obtain ⟨_, cell, row, rows, links⟩ := r
  subst hr
  have hopen : (⟨none, cell, row, rows, links⟩ : Reading).read "<span style=\"background:" =
      ⟨some "span style=\"background:".toList, cell, row, rows, links⟩ := rfl
  have hend (tag : List Char) :
      (⟨some ("span style=\"background:".toList ++ tag), cell, row, rows, links⟩ : Reading).read
        (";color:#fff;border-radius:8px;padding:2px 8px;font-size:12px\"" ++ ">") =
      ⟨none, cell, row, rows, links⟩ := by
    rw [read_endTag rfl (by decide)]
    rfl
  have hbadge : (⟨none, cell, row, rows, links⟩ : Reading).read
      ("<span style=\"background:" ++ colour status
        ++ ";color:#fff;border-radius:8px;padding:2px 8px;font-size:12px\">") =
      ⟨none, cell, row, rows, links⟩ := by
    rw [read_append, read_append, hopen, read_inside rfl (notMem_colour status)]
    exact hend _
  rw [badge, render_cons, render_cons, render_cons, render_nil, String.append_empty, read_append,
    read_append]
  exact congrArg (fun r => (Reading.read r (escape status)).read "</span>") hbadge

/-! ### Rows -/

/-- How a step stands, by name. -/
inductive StandsAs : Standing → String → Prop
  | running : StandsAs .running "running"
  | passed : StandsAs .passed "passed"
  | failed : StandsAs .failed "failed"
  | other (text : String) : StandsAs (.other text) text

theorem standsAs_text (standing : Standing) : StandsAs standing standing.text := by
  cases standing with
  | running => exact .running
  | passed => exact .passed
  | failed => exact .failed
  | other text => exact .other text

/-- A row says of a step its number, its name behind two dashes, its value, the time that it took,
how it stands, and what went wrong, if anything did. -/
inductive SaysStep (s : Step) : List String → Prop
  | row {value standing : String} (hvalue : s.value.Printed value)
    (hstanding : StandsAs s.standing standing) (duration : Float) :
    SaysStep s
      [toString s.index, "--" ++ s.name, value, seconds duration, standing, s.error.getD ""]

theorem printed_cellText (v : Value) : v.Printed (cellText v) := by
  cases v with
  | absent => exact .absent
  | _ => exact Value.printed_shown (by simp)

/-- The cells of a step's row. -/
def stepCells (s : Step) (duration : Float) : List String :=
  [toString s.index, "--" ++ s.name, cellText s.value, seconds duration, s.standing.text,
    s.error.getD ""]

theorem saysStep_stepCells (s : Step) (duration : Float) : SaysStep s (stepCells s duration) :=
  .row (printed_cellText s.value) (standsAs_text s.standing) duration

theorem read_stepRow (s : Step) (duration : Float) :
    (between rows links).read (render (stepRow s duration)) =
      between (rows ++ [stepCells s duration]) links := by
  have hname : ∀ text row, (inCell text row rows links).read "</td><td><code>--" =
      inCell "--" (row ++ [text]) rows links := read_nextCell fun _ _ => rfl
  have hvalue : ∀ text row, (inCell text row rows links).read "</code></td><td><code>" =
      inCell "" (row ++ [text]) rows links := read_nextCell fun _ _ => rfl
  have htime : ∀ text row, (inCell text row rows links).read "</code></td><td>" =
      inCell "" (row ++ [text]) rows links := read_nextCell fun _ _ => rfl
  have hcell : ∀ text row, (inCell text row rows links).read "</td><td>" =
      inCell "" (row ++ [text]) rows links := read_nextCell fun _ _ => rfl
  have hspan (text : String) (row : List String) :
      (inCell text row rows links).read "</span>" = inCell text row rows links := rfl
  rw [stepRow]
  simp only [render_append, render_cons, render_nil, Piece.render, read_append, String.append_empty]
  rw [read_firstCell, read_plain (bland_toString _), hname, read_text, hvalue, read_text, htime,
    read_plain (bland_seconds _), hcell, read_badge rfl, read_text, hspan, hcell, read_text,
    read_lastCell]
  simp [stepCells]

theorem read_stepRows (entries : List (Step × Float)) :
    (between rows links).read (render (entries.flatMap fun (s, duration) => stepRow s duration)) =
      between (rows ++ entries.map fun (s, duration) => stepCells s duration) links := by
  induction entries generalizing rows with
  | nil => rw [List.map_nil, List.append_nil]; rfl
  | cons entry entries ih =>
    rw [List.flatMap_cons, render_append, read_append, read_stepRow, ih, List.map_cons,
      List.append_assoc, List.singleton_append]

/-- A path in quotation marks in a tag is read as a link. -/
theorem read_link {front : List Char} {cell : Option (List Char)} {markup : String}
    (hfront : ∀ (r : Reading) (cs : List Char), r.enter (front ++ cs) =
      { r with links := r.links ++ [said (cs.takeWhile (· != '"'))] })
    (hmarkup : ∃ back, markup.toList = '"' :: back) (hend : '>' ∉ markup.toList) (path : String) :
    ((⟨some front, cell, row, rows, links⟩ : Reading).read (escape path)).read (markup ++ ">") =
      ⟨none, cell, row, rows, links ++ [path]⟩ := by
  obtain ⟨back, hback⟩ := hmarkup
  have hpath :
      ((escape path).toList ++ '"' :: back).takeWhile (· != '"') = (escape path).toList := by
    rw [List.takeWhile_append_of_pos]
    · simp
    · intro c hc
      rw [bne_iff_ne]
      rintro rfl
      exact notMem_escape rfl hc
  rw [read_inside rfl (notMem_escape rfl), read_endTag rfl hend, List.append_assoc, hfront, hback,
    hpath, toList_escape, said_escape]

/-- What a row links to: the artifact, and once more to show it if it is a picture. -/
def artifactLinks (a : Artifact) : List String :=
  if endsLikePicture a.path then [a.path, a.path] else [a.path]

theorem read_anchor (kind path : String) :
    (between rows links).read (render [.markup "<tr><td>", .text kind,
      .markup "</td><td><a href=\"", .text path, .markup "\" target=\"_blank\">", .text path,
      .markup "</a>"]) = inCell path [kind] rows (links ++ [path]) := by
  have hkind : (inCell kind [] rows links).read "</td><td><a href=\"" =
      ⟨some "a href=\"".toList, some [], [kind], rows, links⟩ := by
    have hchars (cs : List Char) :
        (⟨none, some cs, [], rows, links⟩ : Reading).read "</td><td><a href=\"" =
          ⟨some "a href=\"".toList, some [], [said cs], rows, links⟩ := rfl
    rw [inCell, hchars, said_escape]
  have hlink : ((⟨some "a href=\"".toList, some [], [kind], rows, links⟩ : Reading).read
      (escape path)).read "\" target=\"_blank\">" = inCell "" [kind] rows (links ++ [path]) := by
    have htag : "\" target=\"_blank\">" = "\" target=\"_blank\"" ++ ">" := by decide
    rw [htag]
    exact read_link (fun _ _ => rfl) ⟨_, rfl⟩ (by decide) path
  simp only [render_cons, render_nil, Piece.render, read_append, String.append_empty]
  rw [read_firstCell, read_text, String.empty_append, hkind, hlink, read_text, String.empty_append]
  rfl

theorem read_thumbnail (text path : String) :
    (inCell text row rows links).read (render [.markup "<div><img src=\"", .text path,
      .markup "\" style=\"max-width:320px;border:1px solid #ddd;margin-top:4px\"/></div>"]) =
      inCell text row rows (links ++ [path]) := by
  have himage : (inCell text row rows links).read "<div><img src=\"" =
      ⟨some "img src=\"".toList, some (text.toList.flatMap escapeChar), row, rows, links⟩ := rfl
  have htag : "\" style=\"max-width:320px;border:1px solid #ddd;margin-top:4px\"/></div>" =
      "\" style=\"max-width:320px;border:1px solid #ddd;margin-top:4px\"/" ++ ">" ++ "</div>" := by
    decide
  simp only [render_cons, render_nil, Piece.render, read_append, String.append_empty]
  rw [himage, htag, read_append _ (_ ++ _), read_link (fun _ _ => rfl) ⟨_, rfl⟩ (by decide) path]
  rfl

theorem read_artifactRow (a : Artifact) :
    (between rows links).read (render (artifactRow a)) =
      between (rows ++ [[a.kind, a.path]]) (links ++ artifactLinks a) := by
  rw [artifactRow, isPicture_eq, artifactLinks, render_append, render_append, read_append,
    read_append, read_anchor]
  cases endsLikePicture a.path
  · exact read_lastCell a.path [a.kind]
  · rw [if_pos rfl, if_pos rfl, read_thumbnail]
    exact (read_lastCell a.path [a.kind]).trans (by simp)

/-- What the rows say of artifacts. -/
def artifactCells : List Artifact → List (List String)
  | [] => [["No artifacts"]]
  | artifacts => artifacts.map fun a => [a.kind, a.path]

theorem read_artifactRows (as : List Artifact) :
    (between rows links).read (render (artifactRows as)) =
      between (rows ++ artifactCells as) (links ++ as.flatMap artifactLinks) := by
  have hrows (rows : List (List String)) (links : List String) :
      (between rows links).read (render (as.flatMap artifactRow)) =
        between (rows ++ as.map fun a => [a.kind, a.path]) (links ++ as.flatMap artifactLinks) := by
    induction as generalizing rows links with
    | nil => simp [read]
    | cons a as ih =>
      rw [List.flatMap_cons, render_append, read_append, read_artifactRow, ih]
      simp
  cases as with
  | nil =>
    have hnone :
        (between [] []).read (render (artifactRows [])) = between [["No artifacts"]] [] := by
      decide +kernel
    exact read_after hnone rows links
  | cons a as => exact hrows rows links

/-! ### The page -/

/-- The heads of the columns of the steps. -/
def stepHeads : List String := ["#", "Argument", "Value", "Time", "Status", "Error"]

/-- The heads of the columns of the artifacts. -/
def artifactHeads : List String := ["Type", "Path"]

/-- In the tables of a page stands what the report says of its steps and artifacts. -/
theorem read_pieces (r : Report) (name : String) (total : Float) (lengths : List Float) :
    (between [] []).read (render (r.pieces name total lengths)) =
      between (stepHeads :: (r.steps.zip lengths).map (fun (s, duration) => stepCells s duration)
        ++ artifactHeads :: artifactCells r.artifacts) (r.artifacts.flatMap artifactLinks) := by
  have htitle : (between [] []).read
      ("<!doctype html>\n<html lang=\"en\"><head>\n<meta charset=\"utf-8\"/>\n"
        ++ "<title>Run Report – ") = between [] [] := by
    rw [read_append]
    decide +kernel
  have hstyles : (between [] []).read ("</title>\n" ++ styles
      ++ "</head><body>\n<h2>Run Report – ") = between [] [] := by
    simp only [styles, read_append]
    decide +kernel
  have hbrowser : (between [] []).read "</h2>\n<div><b>Browser:</b> " = between [] [] := by
    decide +kernel
  have hheaded : (between [] []).read " | <b>Headed:</b> " = between [] [] := by decide +kernel
  have hstatus : (between [] []).read "</div>\n<div><b>Status:</b> " = between [] [] := by
    decide +kernel
  have hspan : (between [] []).read "</span>" = between [] [] := by decide +kernel
  have herror : (between [] []).read "</div>\n<div><b>Error:</b> " = between [] [] := by
    decide +kernel
  have hduration : (between [] []).read "</div>\n<div><b>Duration:</b> " = between [] [] := by
    decide +kernel
  have hsteps : (between [] []).read ("</div>\n\n<h3>Steps</h3>\n<table>\n"
      ++ "  <thead><tr><th>#</th><th>Argument</th><th>Value</th><th>Time</th><th>Status</th>"
      ++ "<th>Error</th></tr></thead>\n  <tbody>") = between [stepHeads] [] := by
    simp only [read_append]
    decide +kernel
  have hartifacts : (between [] []).read ("</tbody>\n</table>\n\n<h3>Artifacts</h3>\n<table>\n"
      ++ "  <thead><tr><th>Type</th><th>Path</th></tr></thead>\n  <tbody>") =
        between [artifactHeads] [] := by
    rw [read_append]
    decide +kernel
  have hend : (between [] []).read "</tbody>\n</table>\n</body></html>" = between [] [] := by
    decide +kernel
  have hartifacts := read_after hartifacts
  have hend := read_after hend
  simp only [read_append] at htitle hstyles hsteps hartifacts
  rw [pieces]
  simp only [render_append, render_cons, render_nil, Piece.render, String.append_empty, read_append]
  rw [htitle, read_text_between, hstyles, read_text_between, hbrowser, read_text_between, hheaded,
    read_plain_between (bland_flagText _), hstatus, read_badge rfl, read_text_between, hspan,
    herror, read_text_between, hduration, read_plain_between (bland_seconds _), hsteps,
    read_stepRows, hartifacts, read_artifactRows, hend]
  simp

end Reading

end PageScript.Report
