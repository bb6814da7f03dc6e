import ContractHarness.Deployment.Lookup
import ContractHarness.Proofs.BigNumber.Checksum

/-!
# Telling failed lookups apart

That an artifact has no canonical instance is read off the message of a failed lookup. The message
names the artifact, so that those of two artifacts are different texts. That there is no code at an
address is told in other words, from the first character on.
-/

set_option autoImplicit false

namespace ContractHarness

/-- A chain that is seen from a layer further out is told behind the text of that layer. -/
theorem ErrorChain.text_context (text : String) (e : ErrorChain) :
    (e.context text).text = text ++ ": " ++ e.text := by
  unfold ErrorChain.text ErrorChain.context
  rw [String.intercalate_cons_cons]

/-- An error without a cause is told in its one text. -/
theorem ErrorChain.text_ofText (text : String) : (ErrorChain.ofText text).text = text := by
  unfold ErrorChain.text ErrorChain.ofText
  rw [String.intercalate_singleton]

namespace LookupError

variable {name other : ArtifactName}

/-- The texts for artifacts without a canonical instance differ with the names. -/
theorem notDeployedText_inj : notDeployedText name = notDeployedText other ↔ name = other := by
  constructor
  · intro h
    have hcharacters := congrArg String.toList h
    unfold notDeployedText at hcharacters
    -- what stands before the name and behind it is the same in both
    simp only [toString, String.toList_append, List.append_cancel_right_eq,
      List.append_cancel_left_eq] at hcharacters
    exact String.toList_inj.mp hcharacters
  · rintro rfl
    rfl

/-- A message says that the artifact has no canonical instance when it is the text for this. -/
@[simp] theorem isNotDeployed_message {text : String} :
    (message text).isNotDeployed name = true ↔ text = notDeployedText name := by
  simp [isNotDeployed, message?]

/-- An opaque error never says that the artifact has no canonical instance. -/
@[simp] theorem isNotDeployed_opaqueError (chain : ErrorChain) :
    (opaqueError chain).isNotDeployed name = false := by
  simp [isNotDeployed, message?]

/-- An artifact without a canonical instance is not taken for another one. -/
@[simp] theorem isNotDeployed_notDeployed :
    (notDeployed name).isNotDeployed other = true ↔ name = other := by
  rw [notDeployed, isNotDeployed_message]
  exact notDeployedText_inj

/-- That there is no code at an address is told in other words than that there is no canonical
instance. -/
@[simp] theorem isNotDeployed_noCode (name other : ArtifactName) (address : Address) :
    (noCode name address).isNotDeployed other = false := by
  have hfirst : s!"Cannot create instance of {name}; no code at address {address.checksummed}" ≠
      s!"Trying to get deployed instance of {other}, but none was set." := by
    intro h
    -- the texts differ in their first characters, whatever the names are
    have hhead := congrArg (fun text => text.toList.head?) h
    simp [toString] at hhead
  unfold noCode
  rw [Bool.eq_false_iff, ne_eq, isNotDeployed_message]
  exact hfirst

/-- The errors about addresses without code differ with the addresses. -/
theorem noCode_inj {a b : Address} : noCode name a = noCode name b ↔ a = b := by
  constructor
  · intro h
    have htext := congrArg String.toList (message.inj h)
    simp only [toString, String.toList_append, List.append_cancel_left_eq] at htext
    exact Address.checksummed_inj.mp (String.toList_inj.mp htext)
  · rintro rfl
    rfl

/-- That there is no canonical instance is never told as that there is no code. -/
theorem notDeployed_ne_noCode (name other : ArtifactName) (address : Address) :
    notDeployed name ≠ noCode other address := by
  intro h
  have hsame : (notDeployed name).isNotDeployed name = true := isNotDeployed_notDeployed.mpr rfl
  rw [h, isNotDeployed_noCode] at hsame
  cases hsame

end LookupError

end ContractHarness
