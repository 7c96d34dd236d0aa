import Census.Proofs.Network.Spelling
import Census.Proofs.Record.Understood

/-! Places of addresses. A lookup gives a place whose texts are fit to be kept or fails in its own
kind, and how an address was spelled makes no difference to it. -/
namespace Census

open Text Network

inductive Json.IsText : Json → Prop
  | null : IsText .null
  | string (s : String) : IsText (.string s)

inductive Json.IsCoordinate : Json → Prop
  | null : IsCoordinate .null
  | string (s : String) : IsCoordinate (.string s)
  | float (x : Float) : IsCoordinate (.number (.float x))

structure LocationEntry.Usual (e : LocationEntry) : Prop where
  country : e.country.IsText
  city : e.city.IsText
  latitude : e.latitude.IsCoordinate
  longitude : e.longitude.IsCoordinate

/-- Answers of a database that works, or that fails for a reason of its own. -/
def LocationAnswer.Usual : LocationAnswer → Prop
  | .entry e => e.Usual
  | .absent => True
  | .failed f => f.isA .system = true ∨ f.isA .value = true

namespace Location

/-- A coordinate that is told in a text which is no decimal. -/
def Unreadable (j : Json) : Prop :=
  ∃ s, j = .string s ∧ s ≠ "" ∧ Number.readDecimal? s = none

def Declined : LocationAnswer → Prop
  | .entry e => (∃ s, e.country = .string s ∧ trim s ∈ errorTexts) ∨
      Unreadable e.latitude ∨ Unreadable e.longitude
  | .absent => True
  | .failed _ => True

def Unpadded (s : String) : Prop :=
  (∀ c ∈ s.toList.head?, isBlank c = false) ∧ ∀ c ∈ s.toList.getLast?, isBlank c = false

structure Fit (l : Location) : Prop where
  country : Unpadded l.country
  city : Unpadded l.city
  country_ne : l.country ≠ placeholder
  city_ne : l.city ≠ placeholder
  country_not_mem : l.country ∉ errorTexts

/-- A result that fails exactly if there is no place, and then as a lookup does. -/
structure Outcome (declined : Prop) (result : Except Failure Location) : Prop where
  fails_iff : (∃ f, result = .error f) ↔ declined
  isA_location : ∀ f, result = .error f → f.isA .location = true
  fit : ∀ l, result = .ok l → Fit l

namespace Outcome

theorem error {declined : Prop} (h : declined) {f : Failure} (hf : f.isA .location = true) :
    Outcome declined (.error f) where
  fails_iff := ⟨fun _ => h, fun _ => ⟨f, rfl⟩⟩
  isA_location := by
    rintro _ ⟨⟩
    exact hf
  fit := nofun

theorem ok {declined : Prop} (h : ¬declined) {l : Location} (hl : Fit l) :
    Outcome declined (.ok l) where
  fails_iff := ⟨nofun, fun hdeclined => absurd hdeclined h⟩
  isA_location := nofun
  fit := by
    rintro _ ⟨⟩
    exact hl

theorem exists_error {declined : Prop} {result : Except Failure Location}
    (h : Outcome declined result) (hdeclined : declined) :
    ∃ f, result = .error f ∧ f.isA .location = true := by
  obtain ⟨f, hf⟩ := h.fails_iff.mpr hdeclined
  exact ⟨f, hf, h.isA_location f hf⟩

end Outcome

section Texts

theorem unpadded_trim (s : String) : Unpadded (trim s) := by
  unfold Unpadded trim
  rw [String.toList_ofList]
  exact ⟨fun _ => not_of_mem_head?_trimBy, fun _ => not_of_mem_getLast?_trimBy⟩

theorem unpadded_empty : Unpadded "" :=
  ⟨nofun, nofun⟩

theorem clean_string (s : String) :
    clean (.string s) = if trim s = placeholder then "" else trim s :=
  rfl

theorem unpadded_clean {j : Json} (h : j.IsText) : Unpadded (clean j) := by
  cases h with
  | null => exact unpadded_empty
  | string s =>
    rw [clean_string]
    split
    · exact unpadded_empty
    · exact unpadded_trim s

theorem clean_ne_placeholder {j : Json} (h : j.IsText) : clean j ≠ placeholder := by
  cases h with
  | null => decide
  | string s =>
    rw [clean_string]
    split
    · decide
    · assumption

/-- Neither an empty text nor the placeholder is an error text, so cleaning hides none. -/
theorem clean_mem_errorTexts_iff {j : Json} (h : j.IsText) :
    clean j ∈ errorTexts ↔ ∃ s, j = .string s ∧ trim s ∈ errorTexts := by
  have hempty : "" ∉ errorTexts := by decide
  have hplaceholder : placeholder ∉ errorTexts := by decide
  cases h with
  | null =>
    have hnull : clean .null ∉ errorTexts := hempty
    simpa using hnull
  | string s =>
    rw [clean_string]
    split
    · simp_all
    · simp

end Texts

section Coordinates

theorem coordinate_of_unreadable {j : Json} (h : Unreadable j) :
    ∃ shown, coordinate j = .error (.notDecimal shown) := by
  obtain ⟨s, rfl, hsome, hread⟩ := h
  have hempty : (Json.string s).isEmpty = false := beq_false_of_ne hsome
  unfold coordinate
  rw [hempty]
  simp only [Bool.false_eq_true, if_false, hread]
  exact ⟨_, rfl⟩

theorem coordinate_of_readable {j : Json} (hj : j.IsCoordinate) (h : ¬Unreadable j) :
    ∃ x, coordinate j = .ok x := by
  unfold coordinate
  split
  · exact ⟨_, rfl⟩
  · rename_i hempty
    cases hj with
    | null => exact absurd rfl hempty
    | float x => exact ⟨x, rfl⟩
    | string s =>
      have hsome : s ≠ "" := by
        rintro rfl
        exact hempty rfl
      cases hread : Number.readDecimal? s with
      | none => exact absurd ⟨s, rfl, hsome, hread⟩ h
      | some x => exact ⟨x, by simp only [hread]⟩

end Coordinates

theorem outcome_ofEntry (address : String) {e : LocationEntry} (h : e.Usual) :
    Outcome (Declined (.entry e)) (ofEntry address e) := by
  have hcountry := clean_mem_errorTexts_iff h.country
  cases hrefused : errorTexts.contains (clean e.country) with
  | true =>
    have hresult : ofEntry address e = .error (.locationRefused (clean e.country)) := by
      simp only [ofEntry, hrefused]
      rfl
    rw [hresult]
    exact .error (.inl (hcountry.mp (List.contains_iff_mem.mp hrefused))) rfl
  | false =>
    have hnot : clean e.country ∉ errorTexts := by simpa using hrefused
    by_cases hlatitude : Unreadable e.latitude
    · obtain ⟨shown, hread⟩ := coordinate_of_unreadable hlatitude
      have hresult : ofEntry address e =
          .error (.locationCoordinates address (.notDecimal shown)) := by
        simp only [ofEntry, hrefused, hread]
        rfl
      rw [hresult]
      exact .error (.inr (.inl hlatitude)) rfl
    obtain ⟨latitude, hfirst⟩ := coordinate_of_readable h.latitude hlatitude
    by_cases hlongitude : Unreadable e.longitude
    · obtain ⟨shown, hread⟩ := coordinate_of_unreadable hlongitude
      have hresult : ofEntry address e =
          .error (.locationCoordinates address (.notDecimal shown)) := by
        simp only [ofEntry, hrefused, hfirst, hread]
        rfl
      rw [hresult]
      exact .error (.inr (.inr hlongitude)) rfl
    obtain ⟨longitude, hsecond⟩ := coordinate_of_readable h.longitude hlongitude
    have hresult : ofEntry address e =
        .ok ⟨clean e.country, clean e.city, latitude, longitude⟩ := by
      simp only [ofEntry, hrefused, hfirst, hsecond]
      rfl
    rw [hresult]
    refine .ok ?_ ⟨unpadded_clean h.country, unpadded_clean h.city,
      clean_ne_placeholder h.country, clean_ne_placeholder h.city, hnot⟩
    rintro (hmem | hunreadable | hunreadable)
    · exact hnot (hcountry.mpr hmem)
    · exact hlatitude hunreadable
    · exact hlongitude hunreadable

theorem outcome_ofAnswer (address : String) {answer : LocationAnswer} (h : answer.Usual) :
    Outcome (Declined answer) (ofAnswer address answer) := by
  cases answer with
  | entry e => exact outcome_ofEntry address h
  | absent => exact .error trivial rfl
  | failed f =>
    have hdatabase : isDatabaseFailure f = true := by
      unfold isDatabaseFailure
      rcases h with h | h <;> simp [h]
    have hanswer : ofAnswer address (.failed f) = .error (.locationLookup f) := by
      simp only [ofAnswer, hdatabase, if_true]
    rw [hanswer]
    exact .error trivial rfl

theorem find_of_read?_none {ip : Option String}
    (h : Address.read? (trimBy isBlank (ip.getD "").toList) = none) (db : LocationDatabase) :
    find db ip = .error (.locationAddress ip) := by
  simp only [find, h]

/-- A lookup fails exactly if the text is no address, or if the database has no place for the
address that it denotes. Else the place is fit to be kept, and all spellings of an address lead to
one result. -/
theorem outcome_find {db : LocationDatabase} (hdb : ∀ address, (db address).Usual)
    (ip : Option String) :
    let text := trimBy isBlank (ip.getD "").toList
    Outcome ((¬∃ a, Address.Denotes text a) ∨ ∃ a, Address.Denotes text a ∧ Declined (db a.text))
        (find db ip) ∧
      ∀ other a, Address.Denotes text a →
        Address.Denotes (trimBy isBlank (Option.getD other "").toList) a →
          find db other = find db ip := by
  intro text
  simp only [← Address.read?_eq_some_iff]
  constructor
  · cases hread : Address.read? text with
    | none =>
      rw [find_of_read?_none hread]
      exact .error (.inl (by simp)) rfl
    | some a =>
      rw [find_of_read? db ip hread]
      simpa using outcome_ofAnswer a.text (hdb a.text)
  · intro other a hread hother
    rw [find_of_read? db ip hread, find_of_read? db other hother]

/-- A database that knows a place badly, refuses an address and is out of order for all others. -/
def gazetteer : LocationDatabase := fun address =>
  if address = "2001:db8::1" then
    .entry ⟨.string " Kenya\n", .string " - ", .string "-1.2833", .null⟩
  else if address = "10.0.0.1" then
    .entry ⟨.string "\tMISSING FILE", .null, .null, .null⟩
  else .failed (Failure.ofValue "truncated")

theorem usual_gazetteer (address : String) : (gazetteer address).Usual := by
  unfold gazetteer
  split
  · exact ⟨.string _, .string _, .string _, .null⟩
  split
  · exact ⟨.string _, .null, .null, .null⟩
  · exact .inr rfl

theorem outcome_gazetteer :
    find gazetteer (some "\t2001:DB8:0:0:0:0:0:1 ") = find gazetteer (some "2001:db8::1") ∧
      (∃ l, find gazetteer (some "2001:db8::1") = .ok l ∧ Fit l) ∧
      (∃ f, find gazetteer (some "10.0.0.1") = .error f ∧ f.isA .location = true) ∧
      ∃ f, find gazetteer (some "10.0.0.01") = .error f ∧ f.isA .location = true := by
  have hplaced := outcome_find usual_gazetteer (some "2001:db8::1")
  have hrefused := outcome_find usual_gazetteer (some "10.0.0.1")
  have hnone := outcome_find usual_gazetteer (some "10.0.0.01")
  simp only [← Address.read?_eq_some_iff] at hplaced hrefused hnone
  refine ⟨?spellings, ?placed, ?refused, ?none⟩
  case spellings =>
    exact hplaced.2 _ (.v6 [8193, 3512, 0, 0, 0, 0, 0, 1] none) (by decide +kernel)
      (by decide +kernel)
  case placed =>
    obtain ⟨l, hl⟩ : ∃ l, find gazetteer (some "2001:db8::1") = .ok l := ⟨_, rfl⟩
    exact ⟨l, hl, hplaced.1.fit l hl⟩
  case refused =>
    refine hrefused.1.exists_error (.inr ⟨.v4 [10, 0, 0, 1], by decide +kernel, .inl ?_⟩)
    exact ⟨"\tMISSING FILE", rfl, by decide +kernel⟩
  case none =>
    refine hnone.1.exists_error (.inl ?_)
    rintro ⟨a, ha⟩
    cases ha

end Location
end Census
