import Mathlib.Data.List.Basic
import Walkthrough.NodeName
import Walkthrough.Proofs.Cutting

/-!
# The components of names

All that a node is comes from its name, so nothing of a name may be lost when it is read.  The
components with tildes between them are the name, and components without tildes are found again in
the name that they make.  What the parts of a name mean is then said of the components: the first
one is the task type if there are more, the last one is the text, and only those between them are
looked at for markers.
-/

namespace Walkthrough

namespace NodeName

variable {m n : NodeName}

lemma components_decode (name : String) :
    (decode name).components = (Text.piecesOf (· == '~') name.toList).map String.ofList := rfl

lemma components_decode_intercalate {components : List String} (hne : components ≠ [])
    (h : ∀ c ∈ components, '~' ∉ c.toList) :
    (decode ("~".intercalate components)).components = components :=
  Text.pieces_intercalate rfl hne h

/-! ### What the components mean -/

/-- The components of the name in front of its text. -/
def front (n : NodeName) : List String := n.components.dropLast

/-- The first component is the identifier of the task type if there are more. -/
lemma typeIdentifier_eq (n : NodeName) :
    n.typeIdentifier = n.front.head?.getD TaskType.classification.identifier := by
  obtain ⟨components, hne⟩ := n
  match components with
  | [] => exact absurd rfl hne
  | [text] => rfl
  | first :: second :: rest => rfl

lemma middle_eq (n : NodeName) : n.middle = n.front.tail := List.tail_dropLast.symm

lemma taskType?_congr (h : m.front = n.front) : m.taskType? = n.taskType? := by
  rw [taskType?, taskType?, typeIdentifier_eq, typeIdentifier_eq, h]

lemma marker?_congr (h : m.front = n.front) (key : String) : m.marker? key = n.marker? key := by
  rw [marker?, marker?, middle_eq, middle_eq, h]

lemma front_eq {components : List String} {text : String}
    (h : n.components = components ++ [text]) : n.front = components := by
  rw [front, h, List.dropLast_concat]

lemma text_eq {components : List String} {text : String} (h : n.components = components ++ [text]) :
    n.text = text := by
  simp only [NodeName.text, h, List.getLast_concat]

/-- The text of a name stands at its end and has no tilde. -/
lemma exists_front (name : String) :
    '~' ∉ (decode name).text.toList ∧ ∃ front, name = front ++ (decode name).text := by
  refine ⟨Text.not_mem_of_mem_pieces (List.getLast_mem _), ?_⟩
  obtain ⟨before, hbefore⟩ :=
    Text.exists_intercalate_concat "~" (decode name).front (decode name).text
  have hcomponents : (decode name).front ++ [(decode name).text] = Text.pieces '~' name :=
    List.dropLast_append_getLast _
  rw [hcomponents, Text.intercalate_pieces rfl] at hbefore
  exact ⟨before, hbefore⟩

/-- Without a tilde, what is added to a name is added to its text. -/
lemma decode_append (name : String) {s : String} (hs : '~' ∉ s.toList) :
    (decode (name ++ s)).front = (decode name).front ∧
      (decode (name ++ s)).text = (decode name).text ++ s := by
  obtain ⟨front, last, hname, hlonger⟩ :=
    Text.exists_piecesOf_append name.toList (Text.beq_of_not_mem hs)
  have hcomponents : (decode name).components =
      front.map String.ofList ++ [String.ofList last] := by
    rw [components_decode, hname, List.map_append, List.map_singleton]
  have hcomponents' : (decode (name ++ s)).components =
      front.map String.ofList ++ [String.ofList last ++ s] := by
    rw [components_decode, String.toList_append, hlonger, List.map_append, List.map_singleton,
      String.ofList_append, String.ofList_toList]
  exact ⟨by rw [front_eq hcomponents, front_eq hcomponents'],
    by rw [text_eq hcomponents, text_eq hcomponents']⟩

/-! ### Markers -/

/-- The component that is a marker with a key and a value. -/
def markerText (key value : String) : String := "@" ++ (key ++ ("=" ++ value))

/-- Whether a key has a value among some components: the first marker with that key has it.  A key
ends at the first equals sign, so one with an equals sign is that of no marker. -/
structure Marks (components : List String) (key value : String) : Prop where
  key_free : '=' ∉ key.toList
  exists_first : ∃ before after, components = before ++ markerText key value :: after ∧
    ∀ c ∈ before, ∀ other, c ≠ markerText key other

lemma markerOf?_eq_some {component key value : String} :
    markerOf? component = some (key, value) ↔
      component = markerText key value ∧ '=' ∉ key.toList := by
  have hmarker : component = markerText key value ↔
      component.toList = '@' :: (key ++ ("=" ++ value)).toList := by
    rw [← String.toList_inj, markerText, String.toList_append]
    rfl
  rw [hmarker, markerOf?]
  split
  · next rest hrest =>
    rw [Text.cutFirst?_char_eq_some (c := '=') rfl, hrest, List.cons.injEq, ← String.toList_inj,
      String.toList_ofList, and_iff_right rfl]
  · next hrest =>
    refine iff_of_false nofun ?_
    rintro ⟨hcomponent, -⟩
    exact hrest _ hcomponent

lemma any_markerOf? {component key : String} :
    (markerOf? component).any (fun marker => marker.1 == key) = true ↔
      ∃ value, component = markerText key value ∧ '=' ∉ key.toList := by
  rw [Option.any_eq_true]
  constructor
  · rintro ⟨⟨_, value⟩, hmarker, hkey⟩
    obtain rfl := eq_of_beq hkey
    exact ⟨value, markerOf?_eq_some.1 hmarker⟩
  · rintro ⟨value, hmarker⟩
    exact ⟨(key, value), markerOf?_eq_some.2 hmarker, beq_self_eq_true key⟩

/-- The value of a key in a name is that of the first marker with the key between the first
component and the text. -/
lemma marker?_eq_some {key value : String} :
    n.marker? key = some value ↔ Marks n.middle key value := by
  rw [marker?, List.find?_filterMap, Option.map_eq_some_iff]
  constructor
  · rintro ⟨⟨key', _⟩, hfound, rfl⟩
    obtain ⟨component, hfind, hmarker⟩ := Option.bind_eq_some_iff.1 hfound
    obtain ⟨hany, before, after, hmiddle, hbefore⟩ := List.find?_eq_some_iff_append.1 hfind
    obtain ⟨value, hcomponent, hfree⟩ := any_markerOf?.1 hany
    rw [markerOf?_eq_some.2 ⟨hcomponent, hfree⟩] at hmarker
    obtain ⟨rfl, rfl⟩ := Prod.mk.inj (Option.some.inj hmarker)
    refine ⟨hfree, before, after, hcomponent ▸ hmiddle, fun c hc other hother => ?_⟩
    exact absurd (any_markerOf?.2 ⟨other, hother, hfree⟩) (by simpa using hbefore c hc)
  · rintro ⟨hfree, before, after, hmiddle, hbefore⟩
    refine ⟨(key, value), Option.bind_eq_some_iff.2 ⟨markerText key value, ?_, ?_⟩, rfl⟩
    · refine List.find?_eq_some_iff_append.2
        ⟨any_markerOf?.2 ⟨value, rfl, hfree⟩, before, after, hmiddle, fun c hc => ?_⟩
      rw [Bool.not_eq_true', ← Bool.not_eq_true, any_markerOf?]
      rintro ⟨other, hother, -⟩
      exact hbefore c hc other hother
    · exact markerOf?_eq_some.2 ⟨rfl, hfree⟩

lemma marker?_eq_none {key : String} :
    n.marker? key = none ↔
      '=' ∈ key.toList ∨ ∀ c ∈ n.middle, ∀ value, c ≠ markerText key value := by
  rw [marker?, Option.map_eq_none_iff, List.find?_eq_none]
  constructor
  · intro h
    by_cases hfree : '=' ∈ key.toList
    · exact Or.inl hfree
    · refine Or.inr fun c hc value hvalue => ?_
      have hmem : (key, value) ∈ n.middle.filterMap markerOf? :=
        List.mem_filterMap.2 ⟨c, hc, markerOf?_eq_some.2 ⟨hvalue, hfree⟩⟩
      exact h _ hmem (beq_self_eq_true key)
  · rintro h ⟨key', value⟩ hmem hkey
    obtain rfl := eq_of_beq hkey
    obtain ⟨c, hc, hmarker⟩ := List.mem_filterMap.1 hmem
    obtain ⟨hvalue, hfree⟩ := markerOf?_eq_some.1 hmarker
    rcases h with heq | hnone
    · exact hfree heq
    · exact hnone c hc value hvalue

/-! ### Names and their components -/

/-- A name is its components with tildes between them, none of which has a tilde itself, and any
components without tildes are those of the name that they make.  So the parts of a name that is
made of an identifier, some components and a text are just these: the identifier is that of the
task type, the text is the text, and what the components between them mark is marked, whatever the
text looks like. -/
theorem decode_lossless :
    (∀ name, (decode name).components ≠ [] ∧
      (∀ c ∈ (decode name).components, '~' ∉ c.toList) ∧
      "~".intercalate (decode name).components = name) ∧
    (∀ components, components ≠ [] → (∀ c ∈ components, '~' ∉ c.toList) →
      (decode ("~".intercalate components)).components = components) ∧
    ∀ identifier between text, (∀ c ∈ identifier :: (between ++ [text]), '~' ∉ c.toList) →
      ∃ n, decode ("~".intercalate (identifier :: (between ++ [text]))) = n ∧
        n.typeIdentifier = identifier ∧ n.text = text ∧
        ∀ key, (∀ value, n.marker? key = some value ↔ Marks between key value) ∧
          (n.marker? key = none ↔
            '=' ∈ key.toList ∨ ∀ c ∈ between, ∀ value, c ≠ markerText key value) := by
  refine ⟨fun name => ⟨(decode name).components_ne_nil, fun c hc => ?_, ?_⟩,
    fun components hne h => components_decode_intercalate hne h,
    fun identifier between text h => ⟨_, rfl, ?_⟩⟩
  · exact Text.not_mem_of_mem_pieces hc
  · exact Text.intercalate_pieces rfl name
  · have hcomponents := components_decode_intercalate (List.cons_ne_nil _ _) h
    generalize decode ("~".intercalate (identifier :: (between ++ [text]))) = n at hcomponents ⊢
    rw [← List.cons_append] at hcomponents
    have hfront := front_eq hcomponents
    have hmiddle : n.middle = between := by rw [middle_eq, hfront, List.tail_cons]
    refine ⟨?_, text_eq hcomponents, fun key => ⟨fun value => ?_, ?_⟩⟩
    · rw [typeIdentifier_eq, hfront]
      rfl
    · rw [marker?_eq_some, hmiddle]
    · rw [marker?_eq_none, hmiddle]

/-- Of two pictures the first one counts, whose name goes on behind its equals sign; the longer key
before it is another one, and so is the key up to the second equals sign.  The narration is no
marker here but the text. -/
theorem decode_lossless_forest :
    (decode ("~".intercalate ["", ""])).components = ["", ""] ∧
    ∃ n, decode ("~".intercalate ["textDisplay", "@bgAudioName=rain", "bg=no", "@bg=a=@b", "@bg=c",
        "@audioName=wind"]) = n ∧
      n.typeIdentifier = "textDisplay" ∧ n.text = "@audioName=wind" ∧
      n.marker? "bg" = some "a=@b" ∧ n.marker? "bg=a" = none ∧ n.marker? "audioName" = none := by
  obtain ⟨n, hn, hidentifier, htext, hmarkers⟩ := decode_lossless.2.2 "textDisplay"
    ["@bgAudioName=rain", "bg=no", "@bg=a=@b", "@bg=c"] "@audioName=wind" (by decide)
  have hother : ∀ {c key : String}, ¬ ("@" ++ (key ++ "=")).toList <+: c.toList →
      ∀ value, c ≠ markerText key value := by
    rintro c key h value rfl
    exact h ⟨value.toList, by simp [markerText]⟩
  have hpicture : Marks ["@bgAudioName=rain", "bg=no", "@bg=a=@b", "@bg=c"] "bg" "a=@b" := by
    refine ⟨by decide, ["@bgAudioName=rain", "bg=no"], ["@bg=c"], rfl, fun c hc => hother ?_⟩
    revert c
    decide
  have hnarration : ∀ c ∈ ["@bgAudioName=rain", "bg=no", "@bg=a=@b", "@bg=c"], ∀ value,
      c ≠ markerText "audioName" value := by
    refine fun c hc => hother ?_
    revert c
    decide
  exact ⟨decode_lossless.2.1 ["", ""] (by decide) (by decide), n, hn, hidentifier, htext,
    ((hmarkers "bg").1 _).2 hpicture, (hmarkers "bg=a").2.2 (Or.inl (by decide)),
    (hmarkers "audioName").2.2 (Or.inr hnarration)⟩

end NodeName

end Walkthrough
