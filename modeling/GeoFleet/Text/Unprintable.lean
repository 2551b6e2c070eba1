import GeoFleet.Text.Runs

/-! Characters that have no ink of their own: controls, format characters, fillers, separators other
than the space, private and unassigned code points, and marks that join the character before them.
A text quoted for a reader writes them by number. -/
namespace GeoFleet.Text.Unprintable

/-- Runs of code points without ink (`u`) and with it (`p`); those after the last run have it. -/
def rows : List String := [
  "u20p5fu22pcu1p252u70p8u2p6u4p7u1p1u1p14u1pe0u7pa6u1p26u2p32u2p3u2ep1u1p1u2p1u2p1u9p1bu4p6u11pa",
  "ubp1u1p2eu15p10u1p65u8p1u6p2u2p1u4p20u2p1u1p1eu1dp59ubp1uep2bu9p7u3p18u4p1u9p1u3p1u7pfu1p19u5",
  "p1u1pbu5p20u10p2au39p37u1p1u1p4u8p4u1p3u7pau2p1du1p2u1p8u2p2u2p16u1p7u1p1u3p4u3p1u1p2u6p2u2p2",
  "u1p1udp2u1p3u4p18u5p1u1p6u4p2u2p16u1p7u1p2u1p2u1p2u4p3u18p4u1p1u7pau2p3u1p1ucp1u1p9u1p3u1p16u1",
  "p7u1p2u1p5u3p4u8p1u1p2u3p1ufp2u4pcu7p1u8p2u1p8u2p2u2p16u1p7u1p2u1p5u3p1u2p1u6p2u2p2ufp2u1p3u4",
  "p12ubp1u1p6u3p3u1p4u3p2u1p1u1p2u3p2u3p3u3pcu5p1u1p2u3p3u1p3u3p1u15p15u6p3u1p8u1p3u1p17u1p10u3",
  "p1u3p4u13p3u1p2u2p2u4pau7pau1pbu1p3u1p17u1pau1p5u3p2u2p1u1p2u17p3u1p2u4pau1p3uepbu1p3u1p29u2p1",
  "u1p2u5p3u1p3u1p2u4p3u1pau4p1au2p2u1p12u3p18u1p9u1p1u2p7u9p2u6p7u7pau2p3ucp30u1p2ubp8u8pdu25p2",
  "u1p1u1p5u1p18u1p1u1pau1p2u9p1u2p5u1p1u9pau2p4u20p18u2p1bu1p1u1p1u1peu1p24u12p1u5p1u2p5u31p8u1",
  "p6u1pdu25p2du4p1u6p1u2p2u2p19u2p4u3p10u4pdu1p2u2p6u1pfu1p28u1p1u5p1u2p8fu2pe8u1p4u2p7u1p1u1p4",
  "u2p29u1p4u2p21u1p4u2p7u1p1u1p4u2pfu1p39u1p4u2p43u5p1du3p1au6p56u2p6u2p280u1p1cu3p59u7p12udp13",
  "u3p2u9p12uepdu1p3ufp34u2p1u7p8u1p2ubp9u3pau6pau6pbu5pau6p59u7p5u2p22u1p1u5p46uap1fu4p4u2p3u4p2",
  "u1p6u7p1u3p2au2p5ubp2cu4p1au6pbu3p39u2p2u3p38u1p1u9p1u1p2u8p6udpau6pau6peu56p30uap4u3p8u1p1du9",
  "pcu2p20u4p2u6p38u1p1u2p3u1p1udp30u8p2u5pfu3p3eu5p2bu2pbubp1udp1u7p4u1p6u1p3u2p1u5pc0u40p116u2",
  "p6u2p26u2p6u2p8u1p1u1p1u1p1u1p1fu2p35u1pfu1peu2p6u1p13u2p3u1p9u11p18u8p2fu11p2u2p1bu1pdu3p22",
  "u3ep8cu4p29au16pbu15p714u2p179u3p2u5p2du1p1u5p1u2p38u7p2ufp17u9p7u1p7u1p7u1p7u1p7u1p7u1p7u1p7",
  "u21p5eu22p1au1p59ucpd6u1ap10u1p29u6p10u1p56u4p65u5p2bu1p33u1p2au1p56u9p30u1p726du3p37u9p15cu14",
  "p2fu4p1uap20u2p50u2p6u8pddu14p11u1p3u1p4u1p19u2p5u4pau6p38u8p44uapcu18pdu1p26u8p19ubp1ucp1eu6",
  "p30u1p2u4p2u2p2u1pdu1pbu4p7u1p19u1p29u6p2u2p2ubp3u1p8u1p1u2pau2p20u1p33u1p1u3p2u2p5u2p1u1p1u18",
  "p11u2p8ubp6u2p6u2p6u9p7u1p7u1p3cu4p75u1p2u1p4u3pau6p2ba4ucp17u4p31u2104p16eu2p6au26p7ucp5u5p1",
  "u1p18u1p5u1p1u1p2u1p2u1p28au20p10u10pau16p23u1p13u1p4u4p5u1p87u4p9fu1p1eu3p6u2p6u2p6u2p3u3p7u1",
  "p7udp2u2pcu1p1au1p13u1p2u1pfu2peu22p7bu5p3u4p2du3p58u1pdu3p1u2fp2du83p1du3p31u10p1bu4p24u9p1e",
  "u5p26uap1eu1p25u4peu2ap9eu2pau6p24u4p24u4p28u8p34ubpcu1pfu1p7u1p2u1pbu1pfu1p7u1p2u3p34ucp137u9",
  "p16uap8u18p6u1p2au1p9u45p6u2p1u1p2cu1p2u3p1u2p17u1p48u8p9u30p13u1p2u5p21u3p1bu5p1bu26p38u4p14",
  "u2p2fufp4u1p3u1p1duap9u7p9u7p40u20p25u6pcu9p36u3p1du2p1bu5p1au7p4ucp7u50p49u37p33udp33u7p2auc",
  "pau6p26u8p18u8p2ud0p1fu1p2au3p1u2p2u10p6u8p9u27p28u8p16ubp9u16p12u4p4u26p1cu14p17u9p1u1p36ufp7",
  "u4p1eu1p2u2p1ucp31u4p2u2p2u1p4uep19u7pau9p24u5p1u9p12u8p23u1p3ubp34u9p1u1p8u4p2u1p10u1p14ubp12",
  "u1p1cu3p2u4p6u1p2u3fp7u1p1u1p4u1pfu1pbu6p2fu1p3udpau8p2u1p8u2p2u2p16u1p7u1p2u1p5u3p1u1p1u1p4u2",
  "p2u2p2u3p1ucp7u1cpau1p1u2p1u1p26u1p1u1p2ufp1u1p2u3p1u1p3u1p2u27p38u8p2u3p1u1p15u1p1u1p3u1ep30",
  "u1p2u6p1u1p2u1p1u2p1u2p4u8paua6p2fu1p2u6p4u2p1u2p1bu24p33u8p2u1p1u2p4ubpau6pdu13p2bu1p1u1p2u8",
  "p2u6pau6p14u1cp1bu3p1u1p2u4p1u9p17ub9p2fu9p1u2p1u64p53ucp8u2p1u2p8u1p2u1p18u1p5u1p2u6p4u1p3u9",
  "pau46p8u2p2au8p4u1p4u1bp1uap28u6p2u4p8u9p1u6p2u3p2eudp1u2p9udp49u7pau57p1u3p1u1p1u58p22uepau6",
  "p9u1p26uep1u1p6uap1du3p20u19p1u7p1u2p1u4bp7u1p2u1p26u15p1u9pau6p6u1p2u1p25u4p2u1p1u1p1u7pau6",
  "p2cu4pauf6p13u2p4u9pfu1p24u8p2u3p17u56p1ufp32udp39bu66p6fu1p5ubpc4ua4cp63udp430u11p6u19pf9bu5",
  "p247u1ab9p1eucp3u3pau6c6p239u7p1fu1pau4p51u1pau6p1eu7p1uap30u7pfuapau1p7u1p15u5p13u1b0p3auc6",
  "p5bu5p19u2p19u2cp4bu5p38ubpdu40p4uep5u9p1cd6u29p20u61p73u21fdp4u1p7u1p2u1p123ufp1u1dp3u2p1uep4",
  "u8p18cu904p6bu5pdu3p9u7pau2p1u2p1uf60pfdu3p1b4u6p17ufp11u5fp74u3cpf6uap27u2p3cu5p3u16p2u7p1eu4",
  "p3du15p42u3p1u7ap14ucp14ucp57u9p19u87p55u1p47u1p2u2p1u2p2u2p4u1pcu1p1u1p7u1p41u1p4u2p8u1p7u1",
  "p1cu1p4u1p5u1p1u3p7u1p154u2p124u2p232u37p4u32p8u1peu1p7u474p1fu6p6u105p3eu92p2duap7u2pau4p2",
  "u140p1eu12p2cu4pau5p1u1d0p1cu4paud6p1eu2pbu4p1uc0p1fu1p3u1p2u1p7u2p5u9p2ue0p7u1p4u1p2u1pfu1pc5",
  "u2p9u30p44u7p1u4pau4p2u311p44u4cp3duc2p4u1p1bu1p2u1p1u2p1u1pau1p4u1p1u1p1u6p1u4p1u1p1u1p1u1p3",
  "u1p2u1p1u2p1u1p1u1p1u1p1u1p1u1p2u1p1u2p4u1p7u1p4u1p4u1p1u1pau1p11u5p3u1p5u1p11u34p2u10ep2cu4",
  "p64ucpfu2pfu1pfu1p25uapaeu38p1dudp2cu4p9u7p2uep6u9ap3d9u3p11u3pdu3pdau6pcu4p1ufpcu4p38u8pau6",
  "p28u8p1eu2pcu4p2uep9u27p158u8peu2pdu3pbu3p39u1p1u4p10u2pcu4pau7p93u1p67u405pa6e0u20p111eu2",
  "p168eu2p1d31ufp26eu9a2p21eu5e2p134bu5p212audcb86"]

def runs : List Run := Run.ofRows rows

def holds (c : Char) : Bool := Run.kindAt runs c.toNat = some 'u'

end GeoFleet.Text.Unprintable
