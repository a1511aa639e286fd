import ValkeyOperator.FieldReaders

/-! The operator's lookup of one field in every text that CLUSTER INFO may send. -/

set_option autoImplicit false

namespace ValkeyOperator
open TextScan

/-- Behind the front of a verbatim string, or with another fourth byte than its colon. -/
def InfoText (ls : List InfoLine) (info : Text) : Prop :=
  info = "txt:".toList ++ renderInfo ls ∨ (info = renderInfo ls ∧ (utf8 info)[3]? ≠ some 0x3A)

theorem stripVerbatimPrefix_fourth {s : Text} (h : (utf8 s)[3]? ≠ some 0x3A) : stripVerbatimPrefix s = s := by
  rcases stripVerbatimPrefix_cases s with hs | ⟨format,rest,rfl,hlen,-,-⟩
  · exact hs
  · refine absurd ?_ h
    rw [utf8_append,List.getElem?_append_right (by rw [hlen]),hlen]
    rfl

/-- The front alone is too short to be cut off. It has the shape of a line without a value. -/
def formatLine : InfoLine where
  key := "txt".toList
  value := []
  crlf := false
  key_ne := by decide
  key_chars := nameChars (by decide)
  value_line := by decide

theorem stripVerbatimPrefix_format {text : Text} (h : text ≠ []) :
    stripVerbatimPrefix ("txt:".toList ++ text) = text := by
  have hcut : stripVerbatimPrefix ("txt".toList ++ ':' :: text) = text :=
    stripVerbatimPrefix_cut (by decide) (by decide) h
  exact hcut

theorem parseClusterInfoField_text {ls : List InfoLine} {info field : Text} (htext : InfoText ls info)
    (h : IsName field) : parseClusterInfoField info field = (firstValue field ls).getD [] := by
  have hread := findSome_renderInfo h ls
  unfold parseClusterInfoField
  rw [findField_eq]
  rcases htext with rfl | ⟨rfl,hfour⟩
  · by_cases hne : renderInfo ls = []
    · have hnone : firstValue field ls = none := by
        rw [← hread,hne,findSome_end]
      have hline : (stripVerbatimPrefix ("txt:".toList ++ [])).splitOn '\n' = [formatLine.body] := by decide
      rw [hne,hnone,hline,List.findSome?_cons,formatLine.found_body h]
      by_cases hkey : formatLine.key = field
      · rw [if_pos hkey]
        rfl
      · rw [if_neg hkey]
        rfl
    · rw [stripVerbatimPrefix_format hne,hread]
  · rw [stripVerbatimPrefix_fourth hfour,hread]

theorem parseClusterInfoInt_eq (info field : Text) :
    parseClusterInfoInt info field = (parseInt64 (parseClusterInfoField info field)).getD 0 := by
  unfold parseClusterInfoInt parseClusterInfoField
  cases findField info (field ++ [':']) with
  | none => rfl
  | some value => rfl

/-- Both readers give the value of the first line with the key. -/
structure ReadsFirst (field : Text) (ls : List InfoLine) (info : Text) : Prop where
  text : parseClusterInfoField info field = (firstValue field ls).getD []
  number : ∀ v n, firstValue field ls = some v → IsInt64 v n → parseClusterInfoInt info field = n
  other : (∀ v n, firstValue field ls = some v → ¬ IsInt64 v n) → parseClusterInfoInt info field = 0

theorem readsFirst_text {ls : List InfoLine} {info field : Text} (htext : InfoText ls info)
    (h : IsName field) : ReadsFirst field ls info := by
  have hfield := parseClusterInfoField_text htext h
  have hint := parseClusterInfoInt_eq info field
  rw [hfield] at hint
  refine ⟨hfield, fun v n hv hn => ?_, fun hno => ?_⟩
  · rw [hint,hv,Option.getD_some,parseInt64_iff.mpr hn,Option.getD_some]
  · rw [hint]
    cases hv : firstValue field ls with
    | none => rfl
    | some v =>
      cases hn : parseInt64 v with
      | none => rw [Option.getD_some,hn,Option.getD_none]
      | some n => exact absurd (parseInt64_iff.mp hn) (hno v n hv)

def InfoLine.longer (l : InfoLine) : InfoLine where
  key := l.key
  value := l.value ++ [':','1']
  crlf := l.crlf
  key_ne := l.key_ne
  key_chars := l.key_chars
  value_line := by simpa using l.value_line

theorem InfoLine.found_longer (l : InfoLine) :
    found (l.key ++ ':' :: l.value) l.longer.body = some ['1'] := by
  have hbody : l.longer.body = (l.key ++ [':']) ++ (l.value ++ [':'] ++ ['1'] ++ lineEnd l.crlf) := by
    simp [body,longer]
  have hfront : (l.key ++ [':']) ++ (l.value ++ [':'] ++ ['1']) =
      (l.key ++ ':' :: l.value ++ [':']) ++ ['1'] := by simp
  unfold found
  rw [hbody,trimSpace_word l.key_token,rdropWhile_blank (lineEnd_space l.crlf),
    List.rdropWhile_concat_neg _ _ _ (by decide),hfront,cutPrefix_append]
  rfl

/-- Exactly the names that are no key with a value in the same text are looked up exactly. -/
theorem readsFirst_iff (field : Text) :
    (∀ ls info, InfoText ls info → ReadsFirst field ls info) ↔ IsName field := by
  constructor
  · rintro h l rfl
    have hread := (h [l.longer] _ (.inl rfl)).text
    have hkey : ∀ m ∈ [l.longer], m.key ≠ l.key ++ ':' :: l.value := by simp [InfoLine.longer]
    have hrender : renderInfo [l.longer] = l.longer.body ++ '\n' :: [] := by rw [renderInfo_cons]; rfl
    unfold parseClusterInfoField at hread
    rw [firstValue_none hkey,findField_eq,hrender,stripVerbatimPrefix_format (by simp),
      splitOn_line l.longer.body_newline,List.findSome?_cons,l.found_longer] at hread
    cases hread
  · intro h ls info htext
    exact readsFirst_text htext h

def addressLine : InfoLine where
  key := "addr".toList
  value := "10.0.0.1:6379".toList
  crlf := true
  key_ne := by decide
  key_chars := nameChars (by decide)
  value_line := by decide

theorem addressLine_misread :
    InfoText [addressLine] ("txt:".toList ++ renderInfo [addressLine]) ∧
      firstValue "addr:10.0.0.1".toList [addressLine] = none ∧
      parseClusterInfoField ("txt:".toList ++ renderInfo [addressLine]) "addr:10.0.0.1".toList = "6379".toList ∧
      parseClusterInfoInt ("txt:".toList ++ renderInfo [addressLine]) "addr:10.0.0.1".toList = 6379 :=
  ⟨.inl rfl, by decide, by decide +kernel, by decide +kernel⟩

end ValkeyOperator
