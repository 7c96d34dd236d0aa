import Census.Proofs.Dashboard.Markup
import Census.Proofs.Dashboard.Failing

/-! The page of the dashboard around hostile texts. Whatever countries, cities, services and versions
are called, they stay inside of the constants of the script and of the options, and are read there as
what they are. -/
namespace Census.Dashboard

open Census.Text

section Places

variable {v : View}

theorem render_append (t u : Template) : Template.render v (t ++ u) = do
    let before ← t.render v
    let after ← u.render v
    return before ++ after := by
  induction t with
  | nil => cases h : Template.render v u <;> simp [Template.render, h] <;> rfl
  | cons part parts ih =>
    rw [List.cons_append, Template.render, ih, Template.render]
    cases part.render v with
    | error e => rfl
    | ok first =>
      cases Template.render v parts with
      | error e => rfl
      | ok rest =>
        cases Template.render v u with
        | error e => rfl
        | ok last => exact congrArg Except.ok (List.append_assoc first rest last).symm

def Surrounded (t : Template) (part : Part) (before after : String) : Prop :=
  ∃ a b, [.markup a, part, .markup b] <:+: t ∧ before.toList <:+ a.toList ∧
    after.toList <+: b.toList

theorem Surrounded.stands {t : Template} {part : Part} {before after : String}
    (hpart : Surrounded t part before after) {cs html : List Char} (hcs : part.render v = .ok cs)
    (h : t.render v = .ok html) : before.toList ++ cs ++ after.toList <:+: html := by
  obtain ⟨a, b, ⟨front, back, rfl⟩, ⟨x, hx⟩, ⟨y, hy⟩⟩ := hpart
  rw [render_append, render_append] at h
  obtain ⟨upTo, hupTo, h⟩ := bind_eq_ok.mp h
  obtain ⟨last, -, h⟩ := bind_eq_ok.mp h
  obtain ⟨first, -, hupTo⟩ := bind_eq_ok.mp hupTo
  obtain ⟨middle, hmiddle, hupTo⟩ := bind_eq_ok.mp hupTo
  cases hupTo
  cases h
  have hinner : middle = a.toList ++ (cs ++ (b.toList ++ [])) := by
    simp only [Template.render, hcs] at hmiddle
    exact (Except.ok.inj hmiddle).symm
  refine ⟨first ++ x, y ++ last, ?_⟩
  rw [hinner, ← hx, ← hy]
  simp

def Choice.name : Choice → String
  | country => "country"
  | city => "city"
  | service => "service"
  | version => "version"

def optionsStart (name : String) : String :=
  "id=\"" ++ name ++ "\">\n" ++
    "              <option value=\"\">All</option>\n" ++
    "              "

theorem surrounded_constants :
    Surrounded page (.script .countries) ("const " ++ "countries" ++ " = ") ";\n" ∧
      Surrounded page (.script .cities) ("const " ++ "cities" ++ " = ") ";\n" ∧
      Surrounded page (.script .map) ("const " ++ "mapData" ++ " = ") ";\n" := by
  refine ⟨⟨_, _, ⟨page.take 16, page.drop 19, rfl⟩, ?_, ?_⟩,
    ⟨_, _, ⟨page.take 18, page.drop 21, rfl⟩, ?_, ?_⟩,
    ⟨_, _, ⟨page.take 20, page.drop 23, rfl⟩, ?_, ?_⟩⟩
  all_goals
    repeat rw [String.toList_append]
    repeat rw [String.toList_ofList]
    decide +kernel

theorem surrounded_options (choice : Choice) :
    Surrounded page (.options choice) (optionsStart choice.name) "\n            </select>" := by
  cases choice
  all_goals unfold optionsStart Choice.name
  case' country => refine ⟨_, _, ⟨page.take 8, page.drop 11, rfl⟩, ?_, ?_⟩
  case' city => refine ⟨_, _, ⟨page.take 10, page.drop 13, rfl⟩, ?_, ?_⟩
  case' service => refine ⟨_, _, ⟨page.take 12, page.drop 15, rfl⟩, ?_, ?_⟩
  case' version => refine ⟨_, _, ⟨page.take 14, page.drop 17, rfl⟩, ?_, ?_⟩
  all_goals
    repeat rw [String.toList_append]
    repeat rw [String.toList_ofList]
    decide +kernel

end Places

section Containment

/-- A constant in the script of a page, from its name to the end of its line: it holds no character
with a meaning in markup, and is read as some data whose fields are put in order. -/
structure HoldsConstant (html : List Char) (name : String) (data : Json) : Prop where
  stands : ("const " ++ name ++ " = ").toList ++ data.scriptText ++ ";\n".toList <:+: html
  harmless : ∀ c ∈ data.scriptText, c ≠ '<' ∧ c ≠ '>' ∧ c ≠ '&' ∧ c ≠ singleQuote
  reads : Json.tokens? data.scriptText = some data.sorted.tokens
  texts : data.sorted.texts.Perm data.texts

/-- The options of a field in the form of a page, after the one for all: the value and the text of
each neither begin nor end a tag or a value, and are read as what its label shows. -/
structure HoldsOptions (html : List Char) (name : String) (labels : List Label)
    (selected : String) : Prop where
  stand : (optionsStart name).toList ++ labels.flatMap (optionMarkup selected) ++
    "\n            </select>".toList <:+: html
  inserts : ∀ l ∈ labels, ∃ inserted,
    optionMarkup selected l = "\n              <option value=\"".toList ++ inserted ++
      "\" ".toList ++ (if l = .text selected then "selected" else "").toList ++ ">".toList ++
      inserted ++ "</option>\n              ".toList ∧
    (∀ c ∈ inserted, c ≠ '<' ∧ c ≠ '>' ∧ c ≠ doubleQuote ∧ c ≠ singleQuote) ∧
    unescape inserted = l.toJson.shown.toList

def skeleton (marks : Choice → List Bool) : List Char :=
  Template.tags marks .text page

structure Contained (v : View) (html : List Char) : Prop where
  countries : HoldsConstant html "countries" v.countries
  cities : HoldsConstant html "cities" v.cities
  map : HoldsConstant html "mapData" v.map
  options : ∀ choice, HoldsOptions html choice.name (v.options choice) (v.selected choice)
  tags : tags html = skeleton v.marks

theorem holdsConstant {v : View} {html : List Char} (h : Template.render v page = .ok html)
    {name : String} {data : ViewData}
    (hpage : Surrounded page (.script data) ("const " ++ name ++ " = ") ";\n") :
    HoldsConstant html name (v.data data) where
  stands := hpage.stands rfl h
  harmless c hc := by
    have hplain : ¬ Json.IsMarkup c := Json.not_isMarkup_of_mem_scriptText hc
    simpa [Json.IsMarkup] using hplain
  reads := Json.tokens?_scriptText (v.data data)
  texts := Json.texts_sorted (v.data data)

theorem holdsOptions {v : View} {html : List Char} (h : Template.render v page = .ok html)
    (choice : Choice) :
    HoldsOptions html choice.name (v.options choice) (v.selected choice) where
  stand := (surrounded_options choice).stands rfl h
  inserts l _ := ⟨escape l.toJson.shown, rfl, fun _ => inert_of_mem_escape, unescape_escape _⟩

theorem contained_render (v : View) :
    ∃ html, Template.render v page = .ok html ∧ Contained v html := by
  obtain ⟨html, hrender, htags⟩ := Template.tagsFrom_render v fits_page
  obtain ⟨hcountries, hcities, hmap⟩ := surrounded_constants
  exact ⟨html, hrender, holdsConstant hrender hcountries, holdsConstant hrender hcities,
    holdsConstant hrender hmap, holdsOptions hrender, htags⟩

end Containment

section Serving

variable {σ : Type} [RandomSource σ]

theorem serve_page {settings : Settings} {templates : Templates}
    (hload : templates.load settings.uiTemplate = .ok page) (db : Store.Database) (clock : Float)
    (f : Filters) :
    (serve settings templates db clock f : Serving σ (List Char)) = (do
      let summary ← Inquiry.resolve settings db clock ⟨.summary, f⟩
      let unfiltered ← Inquiry.resolve settings db clock ⟨.summary, .empty⟩
      let records ← Inquiry.resolve settings db clock ⟨.page, f⟩
      Serving.ofExcept (markup page f summary unfiltered records)) := by
  have hmarkup : ∀ summary unfiltered records,
      (do
        let view ← Serving.ofExcept (View.make f summary unfiltered records)
        Serving.ofExcept ((page.render view).mapError (templateFailure .rendering)) :
          Serving σ (List Char)) =
        Serving.ofExcept (markup page f summary unfiltered records) := by
    intro summary unfiltered records
    unfold markup
    cases View.make f summary unfiltered records <;> rfl
  unfold serve
  rw [hload]
  funext c
  refine (Serving.ofExcept_bind page _ c).trans (congrFun ?_ c)
  simp only [hmarkup]
  rfl

/-- No text gets out of its place in the page of the dashboard, whatever the filters are and whatever
the three answers hold: the constants of the script are read as the data of the view, the options are
read as the labels, and the tags are settled by how many options there are and which are selected.
Where there is no view, there is no page. -/
theorem contained_serve {settings : Settings} {templates : Templates}
    (hload : templates.load settings.uiTemplate = .ok page) (db : Store.Database) (clock : Float)
    (f : Filters) :
    ((serve settings templates db clock f : Serving σ (List Char)) = do
      let summary ← Inquiry.resolve settings db clock ⟨.summary, f⟩
      let unfiltered ← Inquiry.resolve settings db clock ⟨.summary, .empty⟩
      let records ← Inquiry.resolve settings db clock ⟨.page, f⟩
      Serving.ofExcept (markup page f summary unfiltered records)) ∧
    ∀ summary unfiltered records,
      (∀ e, View.make f summary unfiltered records = .error e →
        markup page f summary unfiltered records = .error e) ∧
      ∀ v, View.make f summary unfiltered records = .ok v →
        ∃ html, markup page f summary unfiltered records = .ok html ∧ Contained v html := by
  refine ⟨serve_page hload db clock f, fun summary unfiltered records => ⟨?_, ?_⟩⟩
  · intro e hview
    unfold markup
    rw [hview]
    rfl
  · intro v hview
    obtain ⟨html, hrender, hcontained⟩ := contained_render v
    refine ⟨html, ?_, hcontained⟩
    unfold markup
    rw [hview]
    exact congrArg (Except.mapError (templateFailure .rendering)) hrender

/-- A country that would end the script, a city that would end its value and begin a tag, a service
that would be read as a tag, and a version that would end a text of the script. -/
def hostile : Summary where
  countries := [⟨"</script><script>alert('1')</script>", 1⟩]
  cities := [.text "\"><b>"]
  services := [.text "&lt;b&gt;"]
  versions := [.text "\\'"]
  total := 1

theorem sort_text (s : String) : Label.sort [.text s] = .ok [.text s] := by
  unfold Label.sort
  rw [List.mergeSort_singleton]
  rfl

theorem contained_hostile :
    Templates.load [("index.html", .ok page)] ({} : Settings).uiTemplate = .ok page ∧
      ∃ v html, View.make .empty hostile hostile ⟨⟨0, 0, 0⟩, []⟩ = .ok v ∧
        markup page .empty hostile hostile ⟨⟨0, 0, 0⟩, []⟩ = .ok html ∧ Contained v html ∧
        tags html = skeleton fun _ => [false] := by
  have hload : Templates.load [("index.html", .ok page)] ({} : Settings).uiTemplate = .ok page := rfl
  have hcountries : countryLabels hostile = [.text "</script><script>alert('1')</script>"] := by
    decide
  have hview : ∃ v, View.make .empty hostile hostile ⟨⟨0, 0, 0⟩, []⟩ = .ok v ∧
      v.marks = fun _ => [false] := by
    unfold View.make Summary.labelsJson
    rw [hcountries]
    simp only [hostile, sort_text]
    refine ⟨_, rfl, ?_⟩
    funext choice
    cases choice <;> decide
  obtain ⟨v, hv, hmarks⟩ := hview
  obtain ⟨-, hcontained⟩ := @contained_serve Congruential _ {} _ hload {} 0.0 .empty
  obtain ⟨html, hmarkup, hhtml⟩ := (hcontained hostile hostile ⟨⟨0, 0, 0⟩, []⟩).2 v hv
  exact ⟨hload, v, html, hv, hmarkup, hhtml, hmarks ▸ hhtml.tags⟩

end Serving

end Census.Dashboard
