import EnvLint.Env.Session

/-! # Reporting a read never fails

    The rule reports with its own description: the message is declared, the
    template is not empty, and a site has a place.  So every report of a read
    succeeds, and it adds one diagnostic whose message is the template with the
    name in its slot. -/

namespace EnvLint.Template

/-- Filling passes over characters that open no slot. -/
theorem fill_append (data : List (String × Json)) {front : List Char} (h : '{' ∉ front)
    (rest : List Char) : fill data (front ++ rest) = front ++ fill data rest := by
  induction front with
  | nil => rfl
  | cons c front ih =>
      have hc : c ≠ '{' := by
        intro heq
        exact h (heq ▸ List.mem_cons_self)
      have hfront : '{' ∉ front := by
        intro hmem
        exact h (List.mem_cons_of_mem _ hmem)
      rw [List.cons_append, fill, ih hfront, List.cons_append]
      intro _ heq _
      exact hc heq

/-- Filling takes a slot as a whole and goes on after it. -/
theorem fill_slot (data : List (String × Json)) {cs name after : List Char}
    (h : slot? cs = some (name, after)) :
    fill data ('{' :: '{' :: cs) = filling data name ++ fill data after := by
  rw [fill]
  split
  next name' after' heq =>
    rw [h] at heq
    cases heq
    rfl
  next heq =>
    rw [h] at heq
    cases heq

end EnvLint.Template

namespace EnvLint.Env

/-! ## The message -/

/-- The message before the name. -/
def messageStart : String := "Server-only environment variable '"

/-- The message after the name. -/
def messageEnd : String :=
  "' is used without " ++
  ("`export const dynamic = 'force-dynamic'`. " ++
  ("This component will be statically rendered and only capture build-time values. " ++
  ("Either add `export const dynamic = 'force-dynamic'` " ++
  "or use this variable in a dynamic component.")))

/-- The message about a name. -/
def messageFor (name : String) : String := messageStart ++ (name ++ messageEnd)

theorem append_split {first a b c p q r s : String} (h : first = a ++ (b ++ c)) :
    first ++ p ++ q ++ r ++ s = a ++ (b ++ (c ++ (p ++ (q ++ (r ++ s))))) := by
  rw [h]
  simp only [String.append_assoc]

/-- The template has one slot, between the two parts of the message. -/
theorem template_eq :
    template = messageStart ++ ("\x7b\x7bvarName\x7d\x7d" ++ messageEnd) :=
  append_split (by decide +kernel)

theorem not_mem_toList_append {c : Char} {s t : String} (hs : c ∉ s.toList)
    (ht : c ∉ t.toList) : c ∉ (s ++ t).toList := by
  rw [String.toList_append, List.mem_append]
  intro h
  exact h.elim hs ht

theorem brace_not_mem_messageStart : '{' ∉ messageStart.toList := by
  simp [messageStart]

theorem brace_not_mem_messageEnd : '{' ∉ messageEnd.toList :=
  not_mem_toList_append (by decide +kernel) <|
    not_mem_toList_append (by decide +kernel) <|
    not_mem_toList_append (by decide +kernel) <|
    not_mem_toList_append (by decide +kernel) (by decide +kernel)

/-- The slot is read up to its closing braces. -/
theorem slot?_slotName (rest : List Char) :
    Template.slot? (slotName.toList ++ '}' :: '}' :: rest) = some (slotName.toList, rest) := by
  rw [show slotName.toList = ['v', 'a', 'r', 'N', 'a', 'm', 'e'] from by simp [slotName]]
  rfl

/-- The slot is filled with the name. -/
theorem filling_slotName (name : String) :
    Template.filling [(slotName, .str name)] slotName.toList = name.toList := by
  have hkey : String.ofList (Text.trim slotName.toList) = slotName := by
    decide +kernel
  rw [Template.filling, Template.value?, hkey]
  rfl

/-- The template filled with a name is the message about it. -/
theorem interpolate_template (name : String) :
    Template.interpolate template [(slotName, .str name)] = messageFor name := by
  have hslot : "\x7b\x7bvarName\x7d\x7d".toList
      = '{' :: '{' :: (slotName.toList ++ ['}', '}']) := by
    simp [slotName]
  have hend : Template.fill [(slotName, .str name)] messageEnd.toList = messageEnd.toList := by
    have h := Template.fill_append [(slotName, .str name)] brace_not_mem_messageEnd []
    rw [List.append_nil, Template.fill, List.append_nil] at h
    exact h
  have hfill : Template.fill [(slotName, .str name)] template.toList = (messageFor name).toList := by
    rw [template_eq, String.toList_append, Template.fill_append _ brace_not_mem_messageStart,
      String.toList_append, hslot, List.cons_append, List.cons_append, List.append_assoc]
    show _ ++ Template.fill _ ('{' :: '{' :: (slotName.toList ++ '}' :: '}' :: messageEnd.toList))
      = _
    rw [Template.fill_slot _ (slot?_slotName _), filling_slotName, hend, messageFor,
      String.toList_append, String.toList_append]
  show String.ofList (Template.fill [(slotName, .str name)] template.toList) = messageFor name
  rw [hfill, String.ofList_toList]

/-- The message for a name is not empty, so it can be reported. -/
theorem messageFor_ne_empty (name : String) : messageFor name ≠ "" := by
  intro h
  have hlength := congrArg String.length h
  rw [messageFor, String.length_append] at hlength
  have hstart : 0 < messageStart.length := by decide
  have hempty : ("" : String).length = 0 := rfl
  omega

/-! ## Reports -/

/-- The diagnostic about a read. -/
def diagnosticOf (severity : Severity) (site : Site) : Diagnostic where
  ruleId := ruleId
  messageId := messageId
  message := messageFor site.name
  location := site.location
  severity := severity
  data := [(slotName, .str site.name)]

/-- The rule declares the message that it reports. -/
theorem description_template : description.template messageId = .ok template := by
  rfl

/-- A report of a declared message with all its parts adds a diagnostic. -/
theorem report_eq_ok {c : Context} {id words : String} {location : Option Location}
    {data : List (String × Json)} {d : Diagnostic} (hwords : c.describes.template id = .ok words)
    (hmake : Diagnostic.make c.describes.ruleId id (Template.interpolate words data) location
      c.severity data = .ok d) :
    c.report location id data = .ok { c with diagnostics := c.diagnostics ++ [d] } := by
  rw [Context.report, hwords]
  show ((Diagnostic.make c.describes.ruleId id (Template.interpolate words data) location
    c.severity data).mapError Failure.diagnostic).bind _ = _
  rw [hmake]
  rfl

/-- A report of a read adds its diagnostic. -/
theorem reportSite_eq_ok {c : Context} (h : c.describes = description) (site : Site) :
    Session.reportSite c site
      = .ok { c with diagnostics := c.diagnostics ++ [diagnosticOf c.severity site] } := by
  have hmake : Diagnostic.make ruleId messageId (messageFor site.name) (some site.location)
      c.severity [(slotName, .str site.name)] = .ok (diagnosticOf c.severity site) := by
    rw [Diagnostic.make, if_neg (by decide), if_neg (by decide),
      if_neg (messageFor_ne_empty site.name)]
    rfl
  have hwords : c.describes.template messageId = .ok template := by
    rw [h]
    exact description_template
  refine report_eq_ok hwords ?_
  rw [h, interpolate_template]
  exact hmake

/-- Reports of reads add their diagnostics in order. -/
theorem foldlM_reportSite_eq_ok (sites : List Site) {c : Context}
    (h : c.describes = description) :
    sites.foldlM Session.reportSite c
      = .ok { c with diagnostics := c.diagnostics ++ sites.map (diagnosticOf c.severity) } := by
  induction sites generalizing c with
  | nil =>
      rw [List.map_nil, List.append_nil]
      rfl
  | cons site sites ih =>
      rw [List.foldlM_cons, reportSite_eq_ok h site]
      have hrest := ih
        (c := { c with diagnostics := c.diagnostics ++ [diagnosticOf c.severity site] }) h
      rw [List.append_assoc] at hrest
      exact hrest

end EnvLint.Env
