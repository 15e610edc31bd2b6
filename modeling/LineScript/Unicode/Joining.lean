import LineScript.Unicode.Combining

/-!
Joining: which letters are written together, and where the joiners without a width may stand.

The table holds characters that may occur in a domain. Its signs tell on which side a letter joins:
`l` on its left, `r` on its right, `d` on both; `t` says that joining goes through the character.
-/

namespace LineScript.Unicode

def joiningRows : List String :=
  ["300-36Ft 483-489t 591-5BDt 5BFt 5C1-5C2t 5C4-5C5t 5C7t 610-61At 620d 622-625r 626d 627r 628d",
   "629r 62A-62Ed 62F-632r 633-63Fd 641-647d 648r 649-64Ad 64B-65Ft 66E-66Fd 670t 671-673r",
   "679-687d 688-699r 69A-6BFd 6C0r 6C1-6C2d 6C3-6CBr 6CCd 6CDr 6CEd 6CFr 6D0-6D1d 6D2-6D3r 6D5r",
   "6D6-6DCt 6DF-6E4t 6E7-6E8t 6EA-6EDt 6EE-6EFr 6FA-6FCd 6FFd 710r 711t 712-714d 715-719r",
   "71A-71Dd 71Er 71F-727d 728r 729d 72Ar 72Bd 72Cr 72D-72Ed 72Fr 730-74At 74Dr 74E-758d 759-75Br",
   "75C-76Ad 76B-76Cr 76D-770d 771r 772d 773-774r 775-777d 778-779r 77A-77Fd 7A6-7B0t 7CA-7EAd",
   "7EB-7F3t 7FDt 816-819t 81B-823t 825-827t 829-82Dt 840r 841-845d 846-847r 848d 849r 84A-853d",
   "854r 855d 856-858r 859-85Bt 860d 862-865d 867r 868d 869-882r 886d 889-88Dd 88Er 88Fd 897-89Ft",
   "8A0-8A9d 8AA-8ACr 8AEr 8AF-8B0d 8B1-8B2r 8B3-8B8d 8B9r 8BA-8C8d 8CA-902t 93At 93Ct 941-948t",
   "94Dt 951-957t 962-963t 981t 9BCt 9C1-9C4t 9CDt 9E2-9E3t 9FE-A02t A3Ct A41-A51t A70-A71t A75t",
   "A81-A82t ABCt AC1-AC8t ACDt AE2-AE3t AFA-B01t B3Ct B3Ft B41-B44t B4D-B56t B62-B63t B82t BC0t",
   "BCDt C00t C04t C3Ct C3E-C40t C46-C56t C62-C63t C81t CBCt CBFt CC6t CCC-CCDt CE2-CE3t D00-D01t",
   "D3B-D3Ct D41-D44t D4Dt D62-D63t D81t DCAt DD2-DD6t E31t E34-E3At E47-E4Et EB1t EB4-EBCt",
   "EC8-ECEt F18-F19t F35t F37t F39t F71-F7Et F80-F84t F86-F87t F8D-FBCt FC6t 102D-1030t",
   "1032-1037t 1039-103At 103D-103Et 1058-1059t 105E-1060t 1071-1074t 1082t 1085-1086t 108Dt 109Dt",
   "135D-135Ft 1712-1714t 1732-1733t 1752-1753t 1772-1773t 17B7-17BDt 17C6t 17C9-17D3t 17DDt 1807d",
   "1820-1878d 1885-1886t 1887-18A8d 18A9t 18AAd 1920-1922t 1927-1928t 1932t 1939-193Bt 1A17-1A18t",
   "1A1Bt 1A56t 1A58-1A60t 1A62t 1A65-1A6Ct 1A73-1A7Ft 1AB0-1B03t 1B34t 1B36-1B3At 1B3Ct 1B42t",
   "1B6B-1B73t 1B80-1B81t 1BA2-1BA5t 1BA8-1BA9t 1BAB-1BADt 1BE6t 1BE8-1BE9t 1BEDt 1BEF-1BF1t",
   "1C2C-1C33t 1C36-1C37t 1CD0-1CD2t 1CD4-1CE0t 1CE2-1CE8t 1CEDt 1CF4t 1CF8-1CF9t 1DC0-1DFFt",
   "20D0-20F0t 2CEF-2CF1t 2D7Ft 2DE0-2DFFt 302A-302Dt 3099-309At A66F-A672t A674-A67Dt A69E-A69Ft",
   "A6F0-A6F1t A802t A806t A80Bt A825-A826t A82Ct A840-A871d A872l A8C4-A8C5t A8E0-A8F1t A8FFt",
   "A926-A92Dt A947-A951t A980-A982t A9B3t A9B6-A9B9t A9BC-A9BDt A9E5t AA29-AA2Et AA31-AA32t",
   "AA35-AA36t AA43t AA4Ct AA7Ct AAB0t AAB2-AAB4t AAB7-AAB8t AABE-AABFt AAC1t AAEC-AAEDt AAF6t",
   "ABE5t ABE8t ABEDt FB1Et FE20-FE2Ft 101FDt 102E0t 10376-1037At 10A01-10A0Ft 10A38-10A3Ft",
   "10AC0-10AC4d 10AC5r 10AC7r 10AC9-10ACAr 10ACDl 10ACE-10AD2r 10AD3-10AD6d 10AD7l 10AD8-10ADCd",
   "10ADDr 10ADE-10AE0d 10AE1r 10AE4r 10AE5-10AE6t 10AEB-10AEEd 10AEFr 10B80d 10B81r 10B82d",
   "10B83-10B85r 10B86-10B88d 10B89r 10B8A-10B8Bd 10B8Cr 10B8Dd 10B8E-10B8Fr 10B90d 10B91r",
   "10BA9-10BACr 10BAD-10BAEd 10D00l 10D01-10D21d 10D22r 10D23d 10D24-10D27t 10D69-10D6Dt",
   "10EAB-10EACt 10EC2r 10EC3-10EC4d 10EC6-10EC7d 10EFA-10EFFt 10F30-10F32d 10F33r 10F34-10F44d",
   "10F46-10F50t 10F51-10F53d 10F54r 10F70-10F73d 10F74-10F75r 10F76-10F81d 10F82-10F85t 10FB0d",
   "10FB2-10FB3d 10FB4-10FB6r 10FB8d 10FB9-10FBAr 10FBB-10FBCd 10FBDr 10FBE-10FBFd 10FC1d",
   "10FC2-10FC3r 10FC4d 10FC9r 10FCAd 10FCBl 11001t 11038-11046t 11070t 11073-11074t 1107F-11081t",
   "110B3-110B6t 110B9-110BAt 110C2t 11100-11102t 11127-1112Bt 1112D-11134t 11173t 11180-11181t",
   "111B6-111BEt 111C9-111CCt 111CFt 1122F-11231t 11234t 11236-11237t 1123Et 11241t 112DFt",
   "112E3-112EAt 11300-11301t 1133B-1133Ct 11340t 11366-11374t 113BB-113C0t 113CEt 113D0t 113D2t",
   "113E1-113E2t 11438-1143Ft 11442-11444t 11446t 1145Et 114B3-114B8t 114BAt 114BF-114C0t",
   "114C2-114C3t 115B2-115B5t 115BC-115BDt 115BF-115C0t 115DC-115DDt 11633-1163At 1163Dt",
   "1163F-11640t 116ABt 116ADt 116B0-116B5t 116B7t 1171Dt 1171Ft 11722-11725t 11727-1172Bt",
   "1182F-11837t 11839-1183At 1193B-1193Ct 1193Et 11943t 119D4-119DBt 119E0t 11A01-11A0At",
   "11A33-11A38t 11A3B-11A3Et 11A47t 11A51-11A56t 11A59-11A5Bt 11A8A-11A96t 11A98-11A99t 11B60t",
   "11B62-11B64t 11B66t 11C30-11C3Dt 11C3Ft 11C92-11CA7t 11CAA-11CB0t 11CB2-11CB3t 11CB5-11CB6t",
   "11D31-11D45t 11D47t 11D90-11D91t 11D95t 11D97t 11EF3-11EF4t 11F00-11F01t 11F36-11F3At 11F40t",
   "11F42t 11F5At 13440t 13447-13455t 1611E-16129t 1612D-1612Ft 16AF0-16AF4t 16B30-16B36t 16F4Ft",
   "16F8F-16F92t 16FE4t 1BC9D-1BC9Et 1CF00-1CF46t 1D167-1D169t 1D17B-1D182t 1D185-1D18Bt",
   "1D1AA-1D1ADt 1D242-1D244t 1DA00-1DA36t 1DA3B-1DA6Ct 1DA75t 1DA84t 1DA9B-1DAAFt 1E000-1E08Ft",
   "1E130-1E136t 1E2AEt 1E2EC-1E2EFt 1E4EC-1E4EFt 1E5EE-1E5EFt 1E6E3t 1E6E6t 1E6EE-1E6EFt 1E6F5t",
   "1E8D0-1E8D6t 1E922-1E943d 1E944-1E94Bt"]

def joiningSpans : List Span := Span.table joiningRows

def joinsAs (signs : List Char) (c : Char) : Bool :=
  match spanOf? joiningSpans c with
  | some ⟨_, _, some sign, _⟩ => signs.contains sign
  | _ => false

def nonJoiner : Char := '\u200c'

def joiner : Char := '\u200d'

def meets (signs : List Char) (t : Text) : Bool :=
  (t.dropWhile (joinsAs ['t'])).head?.any (joinsAs signs)

/-- Whether a joiner may stand between `before`, in reverse order, and `after`: either one after a
mark that takes a vowel away, and the one that keeps letters apart also between letters that would
join. -/
def mayStand (c : Char) (before after : Text) : Bool :=
  before.head?.any isVirama ||
    (c == nonJoiner && meets ['l', 'd'] before && meets ['r', 'd'] after)

/-- Whether every joiner of a text may stand where it does; `before` is what comes before the text,
in reverse order. -/
def joinersStand (before : Text) : Text → Bool
  | [] => true
  | c :: rest =>
    ((c != nonJoiner && c != joiner) || mayStand c before rest) && joinersStand (c :: before) rest

end LineScript.Unicode
