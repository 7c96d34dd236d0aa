import Census.Identity
import Census.Proofs.Network.Address
import Census.Proofs.Text.Utf8

/-! The id of a deployment stays what it was. One that is made up is used only once the host has
kept it, and what the host has kept is read back as it was written. The one thing that leaves a
deployment without an answer is a file whose bytes are no text. -/
namespace Census

open Text

namespace Uuid

variable {id : Uuid} {c : Char}

theorem of_mem_text (h : c ∈ id.text.toList) : c = '-' ∨ (hexDigit? c).isSome = true := by
  unfold text at h
  rw [String.toList_ofList] at h
  refine (Network.Address.mem_intercalate h).imp_right ?_
  rintro ⟨part, hpart, hc⟩
  obtain ⟨group, -, rfl⟩ := List.mem_map.mp hpart
  obtain ⟨b, -, hc⟩ := List.mem_flatMap.mp hc
  exact isSome_hexDigit?_of_mem_hex hc

theorem isBlank_of_mem_text (h : c ∈ id.text.toList) : isBlank c = false := by
  rcases of_mem_text h with rfl | hdigit
  · rfl
  · obtain ⟨d, hd⟩ := Option.isSome_iff_exists.mp hdigit
    exact isBlank_eq_false (hexDigit?_bounds hd).2

theorem text_ne_empty (id : Uuid) : id.text ≠ "" := by
  intro h
  have hnil := congrArg String.toList h
  simp [text, groups] at hnil

example : text (ofRandom #v[0, 1, 2, 3, 4, 5, 0xF6, 7, 0xF8, 9, 10, 11, 12, 13, 14, 15]) =
    "00010203-0405-4607-b809-0a0b0c0d0e0f" := by decide

end Uuid

namespace FileHost

variable {σ : Type}

structure Usual (host : FileHost σ) : Prop where
  read : ∀ path state f, host.read path state = .error f → f.isA .system = true
  makeFolder : ∀ path state f, (host.makeFolder path state).1 = .error f → f.isA .system = true
  write : ∀ path bytes state f, (host.write path bytes state).1 = .error f → f.isA .system = true

end FileHost

namespace Identity

variable {σ : Type} {host : FileHost σ} {env : Table String} {state after : σ} {f : Failure}

theorem readText_encode {s : String} (h : ∀ c ∈ s.toList, isBlank c = false) :
    readText (Utf8.encode s.toList) = .ok s := by
  have hreturn : '\r' ∉ s.toList := fun hmem => absurd (h _ hmem) (by decide)
  have htrim : trimBy isBlank s.toList = s.toList :=
    trimBy_eq_self (fun c hc => h c (List.mem_of_mem_head? hc))
      fun c hc => h c (List.mem_of_getLast? hc)
  unfold readText
  rw [Utf8.decode_encode]
  simp only [unifyLines_eq_self hreturn, trim, htrim, String.ofList_toList]

theorem readText_eq_error_iff {bytes : List UInt8} :
    (∃ f, readText bytes = .error f) ↔ ∃ m, Utf8.decode bytes = .error m := by
  unfold readText
  cases Utf8.decode bytes <;> simp

theorem isPassable_of_readText {bytes : List UInt8} (h : readText bytes = .error f) :
    isPassable f = false := by
  unfold readText at h
  split at h
  · cases h
  · rw [← Except.error.inj h]
    rfl

theorem isPassable_of_keep (hhost : host.Usual) {path id : String}
    (h : keep host path id state = (.error f, after)) : isPassable f = true := by
  unfold keep at h
  split at h
  · rename_i f' state' hfolder
    obtain ⟨hf, -⟩ := Prod.mk.inj h
    rw [← Except.error.inj hf]
    exact hhost.makeFolder path state f' (by rw [hfolder])
  · exact hhost.write path _ _ f (by rw [h])

/-- A file that gives back the id that was kept in it. -/
def ReadsBack (host : FileHost σ) (path id : String) (state : σ) : Prop :=
  ∀ after, keep host path id state = (.ok (), after) →
    host.read path after = .ok (Utf8.encode id.toList)

theorem obtain_of_given {id : String} (h : value? env idVariable = some id) (host : FileHost σ)
    (fresh : String) (state : σ) : obtain host env fresh state = (.ok id, state) := by
  simp only [obtain, h]

theorem obtain_of_read {bytes : List UInt8} (hnone : value? env idVariable = none)
    (hread : host.read (path env) state = .ok bytes) (fresh : String) :
    obtain host env fresh state = (readText bytes, state) := by
  simp only [obtain, hnone, hread, Except.bind]
  cases htext : readText bytes with
  | ok id => rfl
  | error f => simp only [isPassable_of_readText htext, Bool.false_eq_true, if_false]

theorem obtain_of_unread (hhost : host.Usual) (hnone : value? env idVariable = none)
    (hread : host.read (path env) state = .error f) (fresh : String) :
    (∃ after, keep host (path env) fresh state = (.ok (), after) ∧
      obtain host env fresh state = (.ok fresh, after)) ∨
    ∃ f' after, keep host (path env) fresh state = (.error f', after) ∧
      obtain host env fresh state = (.ok "", after) := by
  have hpass : isPassable f = true := hhost.read _ _ _ hread
  simp only [obtain, hnone, hread, Except.bind, hpass, if_true]
  rcases hkeep : keep host (path env) fresh state with ⟨f' | _, after⟩
  · refine .inr ⟨f', after, rfl, ?_⟩
    simp only [isPassable_of_keep hhost hkeep, if_true]
  · exact .inl ⟨after, rfl, rfl⟩

theorem obtain_eq_error_iff (hhost : host.Usual) (env : Table String) (fresh : String) (state : σ) :
    (∃ f, (obtain host env fresh state).1 = .error f) ↔ value? env idVariable = none ∧
      ∃ bytes m, host.read (path env) state = .ok bytes ∧ Utf8.decode bytes = .error m := by
  cases hvalue : value? env idVariable with
  | some given => simp [obtain_of_given hvalue]
  | none =>
    cases hread : host.read (path env) state with
    | ok bytes => simp [obtain_of_read hvalue hread, readText_eq_error_iff]
    | error f =>
      rcases obtain_of_unread hhost hvalue hread fresh with ⟨after, -, h⟩ | ⟨f', after, -, h⟩ <;>
        simp [h]

theorem obtain_again (hhost : host.Usual) {fresh id : String}
    (hfresh : ∀ c ∈ fresh.toList, isBlank c = false)
    (hback : ReadsBack host (path env) fresh state) (hid : id ≠ "")
    (h : obtain host env fresh state = (.ok id, after)) (other : String) :
    obtain host env other after = (.ok id, after) := by
  cases hvalue : value? env idVariable with
  | some given =>
    rw [obtain_of_given hvalue] at h ⊢
    rw [(Prod.mk.inj h).1]
  | none =>
    cases hread : host.read (path env) state with
    | ok bytes =>
      rw [obtain_of_read hvalue hread] at h
      obtain ⟨htext, rfl⟩ := Prod.mk.inj h
      rw [obtain_of_read hvalue hread, htext]
    | error f =>
      rcases obtain_of_unread hhost hvalue hread fresh with ⟨kept, hkeep, hmade⟩ | ⟨_, _, -, hlost⟩
      · -- the second time the file is there, with the id that was made up the first time
        obtain ⟨hfirst, rfl⟩ := Prod.mk.inj (hmade.symm.trans h)
        rw [obtain_of_read hvalue (hback kept hkeep), readText_encode hfresh, hfirst]
      · obtain ⟨hfirst, -⟩ := Prod.mk.inj (hlost.symm.trans h)
        exact absurd (Except.ok.inj hfirst).symm hid

theorem usual_host : IdFile.host.Usual where
  read path file f h := by
    unfold IdFile.host at h
    cases hcontent : file.content with
    | some bytes => simp [hcontent] at h
    | none =>
      obtain rfl : IdFile.refusal = f := by simpa [hcontent] using h
      rfl
  makeFolder path file f h := nomatch h
  write path bytes file f h := by
    simp only [IdFile.host] at h
    split at h
    · cases h
    · rw [← Except.error.inj h]
      rfl

/-- What an id is and where it comes from: the environment before the file, and the file before an
id that is made up, which is used only if it was kept. There is an answer unless the file was read
and its bytes are no text. Where the file gives back what was kept in it, an id stays the same. -/
theorem obtain_lasting (hhost : host.Usual) (env : Table String) (random : Uuid) (state : σ) :
    let fresh := (Uuid.ofRandom random).text
    let first := obtain host env fresh state
    ((∃ f, first.1 = .error f) ↔ value? env idVariable = none ∧
      ∃ bytes m, host.read (path env) state = .ok bytes ∧ Utf8.decode bytes = .error m) ∧
    (∀ id, value? env idVariable = some id → first = (.ok id, state)) ∧
    (value? env idVariable = none →
      (∀ bytes, host.read (path env) state = .ok bytes → first = (readText bytes, state)) ∧
      ∀ f, host.read (path env) state = .error f →
        (∃ after, keep host (path env) fresh state = (.ok (), after) ∧
          first = (.ok fresh, after)) ∨
        ∃ f' after, keep host (path env) fresh state = (.error f', after) ∧
          first = (.ok "", after)) ∧
    fresh ≠ "" ∧
    (ReadsBack host (path env) fresh state → ∀ id, first.1 = .ok id → id ≠ "" →
      ∀ other, obtain host env other first.2 = (.ok id, first.2)) := by
  intro fresh first
  refine ⟨obtain_eq_error_iff hhost env fresh state, fun id h => obtain_of_given h host fresh state,
    fun hnone => ⟨fun bytes hread => obtain_of_read hnone hread fresh,
      fun f hread => obtain_of_unread hhost hnone hread fresh⟩,
    Uuid.text_ne_empty _, fun hback id hfirst hid other => ?_⟩
  exact obtain_again hhost (fun _ => Uuid.isBlank_of_mem_text) hback hid (Prod.ext hfirst rfl) other

def unnamed : Table String :=
  [(idVariable, ""), (fileVariable, "/tmp/id")]

/-- An id is made up for a new file and found in it again; a file with a stray byte gives none. -/
theorem obtain_strayByte :
    let fresh := (Uuid.ofRandom (Vector.replicate 16 0)).text
    (∃ after, obtain IdFile.host unnamed fresh ⟨none, true⟩ = (.ok fresh, after) ∧
      ∀ other, obtain IdFile.host unnamed other after = (.ok fresh, after)) ∧
    ∃ f, (obtain IdFile.host unnamed fresh ⟨some [0xFF], true⟩).1 = .error f := by
  intro fresh
  have hnone : value? unnamed idVariable = none := by decide
  have hnew := obtain_lasting usual_host unnamed (Vector.replicate 16 0) ⟨none, true⟩
  have hstray := obtain_lasting usual_host unnamed (Vector.replicate 16 0) ⟨some [0xFF], true⟩
  constructor
  · rcases (hnew.2.2.1 hnone).2 _ rfl with ⟨after, hkeep, hfirst⟩ | ⟨f, after, hkeep, -⟩
    · refine ⟨after, hfirst, ?_⟩
      have hback : ReadsBack IdFile.host (path unnamed) fresh ⟨none, true⟩ := by
        rintro _ ⟨⟩
        rfl
      have hagain := hnew.2.2.2.2 hback fresh (by rw [hfirst]) (Uuid.text_ne_empty _)
      rw [hfirst] at hagain
      exact hagain
    · cases hkeep
  · refine hstray.1.mpr ⟨hnone, [0xFF], _, rfl, rfl⟩

end Identity

end Census
