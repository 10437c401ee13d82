/-!
# Prompts

What a model is told.  Each prompt ends with the description of the page and the instruction, and
says in which form the model must answer.
-/

namespace PageScript.Agent

/-- The end of a prompt: the page, and the instruction under a heading. -/
def closing (page heading instruction : String) : String :=
  "\nPAGE:\n" ++ page ++ "\n\n" ++ heading ++ ":\n" ++ instruction ++ "\n"

/-- Asks for the steps that carry out an instruction; `kinds` names the operations. -/
def actionPrompt (kinds : List String) (page instruction : String) : String :=
  "You operate a web browser page for a user.\n"
    ++ "Translate the INSTRUCTION into low-level steps on the PAGE below.\n"
    ++ "Allowed step types: " ++ ", ".intercalate kinds ++ ".\n"
    ++ "- click: selector (CSS) or value (visible text of the button/link)\n"
    ++ "- fill: selector + value\n"
    ++ "- press: value is a key like \"Enter\", selector optional (focused element otherwise)\n"
    ++ "- select_option: selector + value\n"
    ++ "- wait_for_selector: selector, value one of visible|attached|hidden|detached\n"
    ++ "- goto: value is a url or path\n"
    ++ "- scroll: value is \"up\" or \"down\"\n"
    ++ "Prefer selector_hint values from the PAGE. Keep the order the instruction implies.\n"
    ++ "Return ONLY JSON: \x7b\"steps\": [\x7b\"type\": \"...\", "
    ++ "\"selector\": \"... or null\", \"value\": \"... or null\"\x7d]\x7d\n"
    ++ closing page "INSTRUCTION" instruction

/-- Asks whether an assertion holds. -/
def assertionPrompt (page assertion : String) : String :=
  "You check statements about a web page.\n"
    ++ "Decide whether the ASSERTION is true for the PAGE below.\n"
    ++ "Return ONLY JSON: \x7b\"pass\": true|false, "
    ++ "\"thought\": \"one short sentence explaining why\"\x7d\n"
    ++ closing page "ASSERTION" assertion

/-- Asks for data from the page. -/
def queryPrompt (page demand : String) : String :=
  "You extract data from a web page.\n"
    ++ "The DEMAND may start with a type description such as "
    ++ "\x7bname: string, status: string\x7d[] followed by what to extract.\n"
    ++ "Shape the answer to match that description; without one, answer with a short string.\n"
    ++ "Return ONLY JSON: \x7b\"data\": <the extracted value>\x7d\n"
    ++ closing page "DEMAND" demand

end PageScript.Agent
