import PageScript.Act
import PageScript.Options
import PageScript.Preferences

/-!
# Browser sessions

A session is one browser with one page, opened for the preferences and options of a run.  When a
step of opening fails, what was started is closed again; when a session is closed, each part is
closed even if another one refuses.
-/

namespace PageScript.Browser

open PageScript.Text

/-- A whole number given as a value, or zero where there is none. -/
def integerOf (v : Value) : Except Failure Int :=
  ((v.orElse (.integer 0)).toInt).mapError .number

/-- A size that the browser is told. -/
def sizeOf (v : Value) : Except Failure Int := v.toInt.mapError .number

/-- A scale that the browser is told. -/
def scaleOf (v : Value) : Except Failure Float := v.toFloat.mapError .number

/-- The engine for a name. -/
def engineOf (name : Value) : Except Failure String :=
  match name.orElse (.text "chromium") with
  | .text s =>
    let name := lower (trim s)
    .ok <| if name = "firefox" ∨ name = "ff" then "firefox"
      else if name = "webkit" ∨ name = "safari" then "webkit"
      else "chromium"
  | other => .error (.unsupported other.toJson.kind "strip")

/-- Start the engine. -/
def launch (p : Preferences) (o : Options) : Act σ Unit := do
  let pause ← Act.ofExcept (integerOf o.slowMotion)
  let engine ← Act.ofExcept (engineOf o.browser)
  Act.command (.launch engine p.headless (if 0 < pause then some pause else none))

/-- Open a page in the engine. -/
def openPage (p : Preferences) (o : Options) : Act σ Unit := do
  let width ← Act.ofExcept (sizeOf p.viewport.width)
  let height ← Act.ofExcept (sizeOf p.viewport.height)
  let scale ← Act.ofExcept (scaleOf p.viewport.scale)
  Act.command (.newContext width height scale p.userAgent)
  Act.command .newPage
  let timeout ← Act.ofExcept (integerOf o.timeout)
  if 0 < timeout then do
    Act.command (.setTimeout timeout)
    Act.command (.setOpeningTimeout timeout)

/-- Close the browser, whether or not it agrees. -/
def closeQuietly : Act σ Unit := do
  let _ ← (Act.command .closeBrowser).attempt

/-- Wrap a failure of launching. -/
def launchFailure (x : Act σ α) : Act σ α :=
  x.rescue (fun _ => true) fun failure => Act.fail (.launch failure)

/-- Open a browser with a page.  A failure is that of the first step that fails, unless stopping the
driver fails afterwards. -/
def openSession (p : Preferences) (o : Options) : Act σ Unit := do
  launchFailure (Act.command .start)
  match ← (launch p o).attempt with
  | .error failure => do
    Act.command .stop
    Act.fail (.launch failure)
  | .ok () =>
    match ← (openPage p o).attempt with
    | .error failure => do
      closeQuietly
      Act.command .stop
      Act.fail (.launch failure)
    | .ok () => return ()

/-- Open an address and wait until the network is quiet. -/
def navigate (url : String) : Act σ Unit :=
  (do
    Act.command (.openAddress url)
    Act.command .awaitQuiet).rescue Failure.isBrowser fun failure =>
      Act.fail (.opening url failure)

/-- Take a picture of the page. -/
def screenshot (path : File.Path) : Act σ Unit := do
  Act.ask (.makeDirectories path.parent)
  Act.command (.screenshot path.text)

/-- Stop the driver, whether or not it agrees. -/
def stopQuietly : Act σ Unit := do
  let _ ← (Act.command .stop).attempt

/-- Close a session: the context, then the browser, then the driver. -/
def closeSession : Act σ Unit :=
  (Act.command .closeContext).finally_ <|
    (Act.command .closeBrowser).finally_ stopQuietly

end PageScript.Browser
