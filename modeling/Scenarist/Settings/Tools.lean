import Scenarist.Json.Record
import Scenarist.Scenario.Action

/-!
# Tools

The tools of an automation backend, one for each thing a step may ask for and one that checks a
selector. A tool has a name and a template of its arguments. Two sets of tools are known: one
for servers that run scripts on the page, and one for servers whose tools take a selector.
-/

namespace Scenarist

/-- A tool of the backend and the template of its arguments. -/
structure Tool where
  name : String
  arguments : Json
deriving Repr, Inhabited

namespace Tool

/-- A tool as a value. -/
def toJson (t : Tool) : Json := .object [("name", .string t.name), ("arguments", t.arguments)]

/-- The fields of a tool; without a template it takes no arguments. -/
def shape : Json.RecordShape Tool where
  name := "ToolSpec"
  fields := [
    ⟨["name"], .required, fun d t => d.asText.map fun n => { t with name := n }⟩,
    ⟨["arguments"], .optional, fun d t => d.asJson.map fun a => { t with arguments := a }⟩]
  blank := ⟨"", .object []⟩

/-- Reads a tool. -/
def read (m : Json.Medium) (d : Json.Document) : Json.Reading Tool := shape.read m d

end Tool

/-- The tools of a backend. -/
structure Toolbox where
  navigate : Tool
  click : Tool
  fill : Tool
  typeText : Tool
  assertVisible : Tool
  waitFor : Tool
  selectOption : Tool
  hover : Tool
  validateSelector : Tool
deriving Repr, Inhabited

namespace Toolbox

/-! ### Servers that run scripts on the page -/

/-- A script that looks for the element of the target. -/
def findElement : String :=
  "const sel = \x7btarget_json\x7d; " ++
  "let el = null; " ++
  "try \x7b el = sel.startsWith('text=') " ++
  "? Array.from(document.querySelectorAll('body *')).find(e => e.children.length === 0 && " ++
  "(e.textContent || '').includes(sel.slice(5))) || null " ++
  ": document.querySelector(sel); \x7d " ++
  "catch (e) \x7b return \x7b success: false, error: String(e) \x7d; \x7d"

/-- A script that gives up without an element. -/
def requireElement : String :=
  "if (!el) return \x7b success: false, error: 'no element matches ' + sel \x7d;"

/-- A tool that runs a script with the element of the target. -/
def script (body : String) : Tool :=
  ⟨"browser_evaluate",
    .object [("function", .string ("async () => \x7b " ++ findElement ++ " " ++ body ++ " \x7d"))]⟩

/-- A tool that sets the value of an element and sends two events, the second as named. -/
def setValue (event : String) : Tool :=
  script (requireElement ++ " el.focus && el.focus(); el.value = \x7bdata_json\x7d; " ++
    "el.dispatchEvent(new Event('input', \x7b bubbles: true \x7d)); " ++
    "el.dispatchEvent(new Event('" ++ event ++ "', \x7b bubbles: true \x7d)); " ++
    "return \x7b success: true \x7d;")

/-- Tools for a server that runs scripts on the page. -/
def scripted : Toolbox where
  navigate := ⟨"browser_navigate", .object [("url", .string "\x7btarget\x7d")]⟩
  click := script (requireElement ++ " el.click(); return \x7b success: true \x7d;")
  fill := setValue "change"
  typeText := setValue "keyup"
  assertVisible := script (requireElement ++ " const box = el.getBoundingClientRect(); " ++
    "return box.width > 0 && box.height > 0 " ++
    "? \x7b success: true \x7d : \x7b success: false, error: sel + ' is not visible' \x7d;")
  waitFor := ⟨"browser_evaluate", .object [("function", .string (
    "async () => \x7b const sel = \x7btarget_json\x7d; " ++
    "const deadline = Date.now() + 10000; " ++
    "while (Date.now() < deadline) \x7b " ++
    "try \x7b if (document.querySelector(sel)) return \x7b success: true \x7d; \x7d " ++
    "catch (e) \x7b return \x7b success: false, error: String(e) \x7d; \x7d " ++
    "await new Promise(r => setTimeout(r, 100)); \x7d " ++
    "return \x7b success: false, error: 'timed out waiting for ' + sel \x7d; \x7d"))]⟩
  selectOption := setValue "change"
  hover := script (requireElement ++ " for (const type of ['mouseover', 'mouseenter']) " ++
    "el.dispatchEvent(new MouseEvent(type, \x7b bubbles: true \x7d)); " ++
    "return \x7b success: true \x7d;")
  validateSelector := script (requireElement ++
    " const unique = s => \x7b try \x7b return document.querySelectorAll(s).length === 1; \x7d " ++
    "catch (e) \x7b return false; \x7d \x7d; " ++
    "const testId = el.getAttribute('data-testid'); " ++
    "const candidates = []; " ++
    "if (testId) candidates.push('[data-testid=\"' + testId + '\"]'); " ++
    "if (el.id) candidates.push('#' + CSS.escape(el.id)); " ++
    "const improved = candidates.find(unique) || sel; " ++
    "return \x7b success: true, improvedSelector: improved \x7d;")

/-! ### Servers whose tools take a selector -/

/-- A tool that takes a selector. -/
def onSelector (name : String) : Tool :=
  ⟨name, .object [("selector", .string "\x7btarget\x7d")]⟩

/-- A tool that takes a selector and a text. -/
def withText (name : String) : Tool :=
  ⟨name, .object [("selector", .string "\x7btarget\x7d"), ("text", .string "\x7bdata\x7d")]⟩

/-- Tools for a server whose tools take a selector. -/
def bySelector : Toolbox where
  navigate := ⟨"navigate", .object [("url", .string "\x7btarget\x7d")]⟩
  click := onSelector "click"
  fill := withText "fill"
  typeText := withText "type"
  assertVisible := onSelector "assert_visible"
  waitFor := onSelector "wait_for_selector"
  selectOption := ⟨"select_option",
    .object [("selector", .string "\x7btarget\x7d"), ("values", .string "\x7bvalues\x7d")]⟩
  hover := onSelector "hover"
  validateSelector := onSelector "validate_selector"

/-- Toolbox as a value. -/
def toJson (t : Toolbox) : Json :=
  .object [
    ("navigate", t.navigate.toJson),
    ("click", t.click.toJson),
    ("fill", t.fill.toJson),
    ("type_text", t.typeText.toJson),
    ("assert_visible", t.assertVisible.toJson),
    ("wait_for", t.waitFor.toJson),
    ("select_option", t.selectOption.toJson),
    ("hover", t.hover.toJson),
    ("validate_selector", t.validateSelector.toJson)]

/-- A tool that keeps its default if it is left out. -/
def toolField (m : Json.Medium) (name : String) (set : Toolbox → Tool → Toolbox) :
    Json.Field Toolbox :=
  ⟨[name], .optional, fun d t => (Tool.read m d).map (set t)⟩

/-- The fields of a toolbox, which is for scripts where nothing else is said. -/
def shape (m : Json.Medium) : Json.RecordShape Toolbox where
  name := "ToolMap"
  fields := [
    toolField m "navigate" fun t x => { t with navigate := x },
    toolField m "click" fun t x => { t with click := x },
    toolField m "fill" fun t x => { t with fill := x },
    toolField m "type_text" fun t x => { t with typeText := x },
    toolField m "assert_visible" fun t x => { t with assertVisible := x },
    toolField m "wait_for" fun t x => { t with waitFor := x },
    toolField m "select_option" fun t x => { t with selectOption := x },
    toolField m "hover" fun t x => { t with hover := x },
    toolField m "validate_selector" fun t x => { t with validateSelector := x }]
  blank := scripted

/-- Reads a toolbox. -/
def read (m : Json.Medium) (d : Json.Document) : Json.Reading Toolbox := (shape m).read m d

/-- The tool of a recognized action. -/
def forAction? (t : Toolbox) : Action → Option Tool
  | .goto => some t.navigate
  | .click => some t.click
  | .fill => some t.fill
  | .expect => some t.assertVisible
  | .wait => some t.waitFor
  | .type => some t.typeText
  | .select => some t.selectOption
  | .hover => some t.hover
  | .other _ => none

end Toolbox

end Scenarist
