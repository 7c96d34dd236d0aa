import Census.Dashboard.View
/-! Templates of pages as lists of parts. Texts of the view are escaped, so that none of them can
begin or end a tag or an attribute; values for scripts are written in the form for scripts. -/
namespace Census.Dashboard

inductive ViewText
  | deploymentCount
  | countryCount
  | start
  | stop
  | selected (choice : Choice)
deriving DecidableEq, Repr

inductive ViewData
  | countries
  | cities
  | map
  | options (choice : Choice)
deriving DecidableEq, Repr

inductive Part
  | markup (text : String)
  | value (name : ViewText)
  | script (name : ViewData)
  | options (choice : Choice)
  | unknown (name : String)
deriving DecidableEq, Repr

abbrev Template := List Part

def escapeChar (c : Char) : List Char :=
  if c = '&' then "&amp;".toList
  else if c = '<' then "&lt;".toList
  else if c = '>' then "&gt;".toList
  else if c = Text.doubleQuote then "&#34;".toList
  else if c = Text.singleQuote then "&#39;".toList
  else [c]

def escape (s : String) : List Char :=
  s.toList.flatMap escapeChar

def View.text (v : View) : ViewText → String
  | .deploymentCount => toString v.deployments
  | .countryCount => toString v.countryCount
  | .start => v.start
  | .stop => v.stop
  | .selected choice => v.selected choice

def View.data (v : View) : ViewData → Json
  | .countries => v.countries
  | .cities => v.cities
  | .map => v.map
  | .options choice => .array ((v.options choice).map Label.toJson)

def optionMarkup (selected : String) (l : Label) : List Char :=
  let text := escape l.toJson.shown
  let mark := if l = .text selected then "selected" else ""
  "\n              <option value=\"".toList ++ text ++ "\" ".toList ++ mark.toList ++ ">".toList ++
    text ++ "</option>\n              ".toList

def undefinedName (name : String) : Failure :=
  .outside .undefinedName ("'" ++ name ++ "' is undefined")

def Part.render (v : View) : Part → Except Failure (List Char)
  | .markup text => .ok text.toList
  | .value name => .ok (escape (v.text name))
  | .script name => .ok (v.data name).scriptText
  | .options choice => .ok ((v.options choice).flatMap (optionMarkup (v.selected choice)))
  | .unknown name => .error (undefinedName name)

def Template.render (v : View) : Template → Except Failure (List Char)
  | [] => .ok []
  | p :: ps => do
    let before ← p.render v
    return before ++ (← Template.render v ps)

/-- The templates that can be loaded, by name; some cannot be read. -/
abbrev Templates := List (String × Except Failure Template)

def Templates.load (ts : Templates) (name : String) : Except Failure Template :=
  match ts.lookup name with
  | some t => t
  | none => .error (.outside .templateMissing name)

end Census.Dashboard
