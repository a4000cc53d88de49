import AmazonSimilarSearch.CodexAdapter.ResponsesRequest
import AmazonSimilarSearch.Foundation.JsonBytes

/-!
# The input text of a review

The packet's line holds no line feed, so the packet is the last line before the
closing marker, whatever texts it contains. The prompt is then what stands before
the marker with the packet's digest.
-/
namespace AmazonSimilarSearch.CodexAdapter
open Foundation
open Packet (PacketError ReviewPacket)
open Review (ReviewRole)

/-- The text is the prompt, the instruction, the opening marker, the canonical packet and the
closing marker. -/
structure Framed (tools : PacketTools) (inputText rolePrompt : String) (packet : ReviewPacket) :
    Prop where
  parts : ∃ packetText, packet.canonicalBytes tools.sha256 = .ok (encodeUtf8 packetText) ∧
    inputText = rolePrompt ++ packetInstruction ++ openingMarker packet.packetSha256.text ++
      packetText ++ closingMarker

theorem notMem_lineFeed_dumps {value : Json} {line : String} (h : Json.dumps value = some line) :
    '\n' ∉ line.toList := by
  simp only [Json.dumps, Option.map_eq_some_iff] at h
  obtain ⟨text, htext, rfl⟩ := h
  rw [String.toList_ofList]
  intro hmem
  exact absurd (Json.noControl_dumpValue htext '\n' hmem) (by decide)

theorem buildTextInput_framed {tools : PacketTools} {packet : ReviewPacket} {role : ReviewRole}
    {rolePrompt : String} {result : String × ℕ × Bool}
    (h : buildTextInput tools packet role rolePrompt = .ok result) :
    Framed tools result.1 rolePrompt packet := by
  simp only [buildTextInput, require, bind_eq_ok_iff, ensure_eq_ok_iff, required_eq_ok_iff,
    pure_eq_ok_iff, exists_const] at h
  obtain ⟨-, -, -, -, -, packetRaw, hraw, packetText, htext, -, rfl⟩ := h
  rw [← encodeUtf8_of_decodeUtf8 htext] at hraw
  exact ⟨packetText, hraw, rfl⟩

/-- A framed text has one prompt and one packet. -/
theorem Framed.unique {tools : PacketTools} {inputText rolePrompt rolePrompt' : String}
    {packet packet' : ReviewPacket} (h : Framed tools inputText rolePrompt packet)
    (h' : Framed tools inputText rolePrompt' packet') :
    rolePrompt = rolePrompt' ∧ packet = packet' := by
  obtain ⟨text, htext, hinput⟩ := h.parts
  obtain ⟨text', htext', hinput'⟩ := h'.parts
  obtain ⟨line, hline, hraw⟩ := ReviewPacket.canonicalBytes_ok htext
  obtain ⟨line', hline', hraw'⟩ := ReviewPacket.canonicalBytes_ok htext'
  rw [encodeUtf8_injective hraw] at hinput
  rw [encodeUtf8_injective hraw'] at hinput'
  have hframe : rolePrompt ++ packetInstruction ++ packetMark packet.packetSha256.text ++ "\n" ++
        line ++ ("\n" ++ closingMarker) =
      rolePrompt' ++ packetInstruction ++ packetMark packet'.packetSha256.text ++ "\n" ++
        line' ++ ("\n" ++ closingMarker) := by
    simpa only [openingMarker, String.append_assoc] using hinput.symm.trans hinput'
  obtain ⟨hbefore, hlines⟩ :=
    frame_inj (notMem_lineFeed_dumps hline) (notMem_lineFeed_dumps hline') hframe
  have hpacket : packet = packet' := ReviewPacket.eq_of_dumps hline (hlines ▸ hline')
  rw [hpacket] at hbefore
  exact ⟨(String.append_left_inj _).mp ((String.append_left_inj _).mp hbefore), hpacket⟩

theorem validatedEmbeddedReviewInput_framed {tools : PacketTools}
    {request : ToolFreeResponsesRequest} {inputText : String}
    {expectedPacket : Option ReviewPacket} {u : Unit}
    (h : validatedEmbeddedReviewInput tools request inputText expectedPacket = .ok u) :
    ∃ rolePrompt packet, Framed tools inputText rolePrompt packet ∧
      packet.packetSha256.text = request.packetSha256 ∧
      tools.sha256 (encodeUtf8 rolePrompt) = pinnedPromptSha256 packet request.role := by
  simp only [validatedEmbeddedReviewInput, require, bind_eq_ok_iff, ensure_eq_ok_iff,
    exists_const] at h
  obtain ⟨-, -, -, -, packet, -, raw, -, -, hdigest, -, -, hprompt, reconstructed, hbuild, rfl⟩ := h
  exact ⟨_, packet, buildTextInput_framed hbuild, hdigest, hprompt⟩

/-- The input text of an accepted request is framed, and no other prompt or packet that the factory
accepts, for whatever role, gives the same text. -/
theorem validatedRequestBytes_framed (tools : PacketTools) (request : ToolFreeResponsesRequest)
    (expectedPacket : Option ReviewPacket) :
    Returned (fun _ => ∃ inputText rolePrompt packet,
        requestInputText request.payload = .ok inputText ∧
        Framed tools inputText rolePrompt packet ∧
        packet.packetSha256.text = request.packetSha256 ∧
        tools.sha256 (encodeUtf8 rolePrompt) = pinnedPromptSha256 packet request.role ∧
        ∀ role rolePrompt' packet', Returned
          (fun built => built.1 = inputText → rolePrompt' = rolePrompt ∧ packet' = packet)
          (buildTextInput tools packet' role rolePrompt'))
      (validatedRequestBytes tools request expectedPacket) := by
  rw [returned_iff]
  intro raw h
  simp only [validatedRequestBytes, require, bind_eq_ok_iff, ensure_eq_ok_iff, exists_const] at h
  obtain ⟨effort, -, -, -, -, -, -, inputText, htext, u, hembedded, -⟩ := h
  obtain ⟨rolePrompt, packet, hframed, hdigest, hprompt⟩ :=
    validatedEmbeddedReviewInput_framed hembedded
  refine ⟨inputText, rolePrompt, packet, htext, hframed, hdigest, hprompt, ?_⟩
  intro role rolePrompt' packet'
  rw [returned_iff]
  intro built hbuilt hsame
  have hframed' := buildTextInput_framed hbuilt
  rw [hsame] at hframed'
  exact hframed'.unique hframed

end AmazonSimilarSearch.CodexAdapter
