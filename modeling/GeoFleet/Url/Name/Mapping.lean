import GeoFleet.Text.Runs

/-! What becomes of each character of a name before it is looked up. Most characters stay; capital
letters and forms that stand for other characters are replaced, some characters are dropped, and
the others are in no name. -/
namespace GeoFleet.Url.Name

inductive Fate where
  | keep
  | drop
  | refuse
  | up (distance : Nat)
  | down (distance : Nat)
  /-- Every other character becomes the one after it. -/
  | alternate
  | replace (cs : List Char)

structure Span where
  fate : Fate
  count : Nat

/-- Runs that stay (`v`), are refused (`x`) or dropped (`i`), go up (`p`) or down (`n`) by a distance
(`g`), or alternate (`k`); and single characters with the first (`t`) and the further (`h`) ones of
their replacement. -/
def mappingRows : List String := [
  "v41p1ag20v25x20t20v7t20h308v1t61v2i1v1t20h304v2n2g80t20h301t3bcv2t20h327t31t6fv1t31h2044h34",
  "t31h2044h32t33h2044h34v1p17g20v1p7g20v21k30t69h307v1t69h6at69h6ak4v1k6t6chb7t6chb7k8t2bch6ek2e",
  "tffk6t73v1t253k4t254t188v1p2gcdt18cv2t1ddt259t25bt192v1t260t263v1t269t268t199v3t26ft272v1t275",
  "k6t280t1a8v1t283v2t1adv1t288t1b0v1p2gd9k4t292t1b9v3t1bdv7t64h17et64h17et64h17et6ch6at6ch6a",
  "t6ch6at6eh6at6eh6at6eh6ak10v1k12v1t64h7at64h7at64h7at1f5v1t195t1bfk28t19ev1k12v6t2c65t23cv1",
  "t19at2c66v2t242v1t180t289t28ckav60t68t266t6at72t279t27bt281t77t79v1ft20h306t20h307t20h30a",
  "t20h328t20h303t20h30bv2t263t6ct73t78t295v5bn2g40v1t313t308h301t3b9v9i1v20k4t2b9v1t377v1x2",
  "t20h3b9v3t3bt3f3x4t20h301t20h308h301t3actb7p3g25x1t3ccx1p2g3fv1p11g20x1p9g20v23t3d7t3b2t3b8",
  "t3c5t3cdt3cbt3c6t3c0v1k18t3bat3c1t3c3v1t3b8t3b5v1t3f8v1t3c3t3fbv2n3g82p10g50p20g20v30k22v8k36",
  "t4cfkev1k60x1p26g30x2v2et565h582v3x2v3x1v37x8v1bx4v6x11v16x1v58t627h674t648h674t6c7h674",
  "t64ah674v64x1v30x2v3bx2v65xev3bx2v31x2vfx1v1cx2v1x1vbx5v20x7v4bx1v75t915h93ct916h93ct917h93c",
  "t91ch93ct921h93ct922h93ct92bh93ct92fh93cv24x1v8x2v2x2v16x1v7x1v1x3v4x2v9x2v2x2v4x8v1x4t9a1h9bc",
  "t9a2h9bcx1t9afh9bcv4x2v19x2v3x1v6x4v2x2v16x1v7x1v1ta32ha3cx1v1ta38ha3cx1v2x2v1x1v5x4v2x2v3x3v1",
  "x7ta16ha3cta17ha3cta1cha3cv1x1ta2bha3cx7v11xav3x1v9x1v3x1v16x1v7x1v2x1v5x2vax1v3x1v3x2v1xfv4x2",
  "vcx7v7x1v3x1v8x2v2x2v16x1v7x1v2x1v5x2v9x2v2x2v3x7v3x4tb21hb3ctb22hb3cx1v5x2v12xav2x1v6x3v3x1v4",
  "x3v2x1v1x1v2x3v2x3v3x3vcx4v5x3v3x1v4x2v1x6v1xev15x5vdx1v3x1v17x1v10x2v9x1v3x1v4x7v2x1v3x1v2x2",
  "v4x2vax7v16x1v3x1v17x1vax1v5x2v9x1v3x1v4x7v2x5v3x1v4x2vax1v3xcvdx1v3x1v33x1v3x1v6x4v10x2v1ax1",
  "v3x1v12x3v18x1v9x1v1x2v7x3v1x4v6x1v1x1v8x6vax2v3xcv32te4dhe32v7x4v1dx25v2x1v1x1v5x1v18x1v1x1vc",
  "tecdheb2vax2v5x1v1x1v7x1vax2teabhe99teabhea1v2x20vctf0bv36tf42hfb7v4x1v4tf4chfb7v4tf51hfb7v4",
  "tf56hfb7v4tf5bhfb7vctf40hfb5v3x4v2tf71hf72v1tf71hf74tfb2hf80tfb2hf71hf80tfb3hf80tfb3hf71hf80v7",
  "tf71hf80v11tf92hfb7v4x1v4tf9chfb7v4tfa1hfb7v4tfa6hfb7v4tfabhfb7vctf90hfb5v3x1vfx1vdx25va0",
  "p26g1c60x1t2d27x5t2d2dx2v2ct10dcv62i2ve8x1v4x2v7x1v1x1v4x2v29x1v4x2v21x1v4x2v7x1v1x1v4x2vfx1",
  "v39x1v4x2v43x2v20x3v1ax6v56x2n6g8x2v280x1v1cx3v59x7v16x9v18x9v14xcvdx1v3x1v2xcv34i2v28x2vax6va",
  "x6vbi5vax6v59x7v2bx5v46xav1fx1vcx4vcx4v1x3v2ax2v5xbv2cx4v1ax6vbx3v3ex2v41x1v1dx2vbx6vax6vex2",
  "v2ex2vcx14v4dx1va6x8v3cx3vfx3v33t432t434t43en2g1842t442t44at463ta64bt1c8av1x5n2bgbc0x2n3gbc0v8",
  "x8v2bx5v2ct61te6t62v1n2g1ccct1ddn8g1cccv1t6ft223t70t72n2g1ccct77t61n2g1af4t1d02t62n2g1ce4t259",
  "n2g1af0t67v1t6bt6dt14bt6ft254n2g3et70n2g1ce3t1d1dt26ft76t1d25n3g19abn2g199at69t72n2g1cef",
  "n2g19b4t3c1n2g19a3vdt43dv22t252t63t255tf0t25ct66t25ft261t265n3g1b3ct1d7bt29dt26dt1d85t29ft271",
  "t270n4g1b3ct278n2g1b31t1abn2g1b2dt1d1cn2g1b2et7an3g1b2ct3b8v40k96v4t61h2bet1e61v2tdfv1k60v8",
  "n8g8v6x2n6g8x2v8n8g8v8n8g8v6x2n6g8x2v8x1t1f51x1t1f53x1t1f55x1t1f57v8n8g8v1t3acv1t3adv1t3aev1",
  "t3afv1t3ccv1t3cdv1t3cex2t1f00h3b9t1f01h3b9t1f02h3b9t1f03h3b9t1f04h3b9t1f05h3b9t1f06h3b9",
  "t1f07h3b9t1f00h3b9t1f01h3b9t1f02h3b9t1f03h3b9t1f04h3b9t1f05h3b9t1f06h3b9t1f07h3b9t1f20h3b9",
  "t1f21h3b9t1f22h3b9t1f23h3b9t1f24h3b9t1f25h3b9t1f26h3b9t1f27h3b9t1f20h3b9t1f21h3b9t1f22h3b9",
  "t1f23h3b9t1f24h3b9t1f25h3b9t1f26h3b9t1f27h3b9t1f60h3b9t1f61h3b9t1f62h3b9t1f63h3b9t1f64h3b9",
  "t1f65h3b9t1f66h3b9t1f67h3b9t1f60h3b9t1f61h3b9t1f62h3b9t1f63h3b9t1f64h3b9t1f65h3b9t1f66h3b9",
  "t1f67h3b9v2t1f70h3b9t3b1h3b9t3ach3b9x1v1t1fb6h3b9n2g8t1f70t3act3b1h3b9t20h313t3b9t20h313",
  "t20h342t20h308h342t1f74h3b9t3b7h3b9t3aeh3b9x1v1t1fc6h3b9t1f72t3adt1f74t3aet3b7h3b9t20h313h300",
  "t20h313h301t20h313h342v3t390x2v2n2g8t1f76t3afx1t20h314h300t20h314h301t20h314h342v3t3b0v4n2g8",
  "t1f7at3cdt1fe5t20h308h300t20h308h301t60x2t1f7ch3b9t3c9h3b9t3ceh3b9x1v1t1ff6h3b9t1f78t3cct1f7c",
  "t3cet3c9h3b9t20h301t20h314x1t20t20t20t20t20t20t20t20t20t20t20i1v2x2v1t2010v5t20h333vcx3v1x7t20",
  "v3t2032h2032t2032h2032h2032v1t2035h2035t2035h2035h2035v4t21h21v1t20h305v8t3fh3ft3fh21t21h3fvd",
  "t2032h2032h2032h2032v7t20i5x5i6t30t69x2n6g2040t2bt2212t3dn2g2055t6enag2050t2bt2212t3dn2g2065x1",
  "t61t65t6ft78t259t68n4g202bt70n2g2028x3v8t72h73v19xev21xft61h2fh63t61h2fh73t63tb0h63v1t63h2fh6f",
  "t63h2fh75t25bv1tb0h66n2g20a3t68t68t68t127t69t69t6ct6cv1t6et6eh6fv2n3g20a9t72t72v2t73h6d",
  "t74h65h6ct74h6dv1t7av1t3c9v1t7av1t6bte5n2g20cav1t65n2g20cbt214et6dt6fn4g1b65t69v1t66h61h78t3c0",
  "t3b3t3b3t3c0t2211v4t64n2g20e2n2g20dfv6t31h2044h37t31h2044h39t31h2044h31h30t31h2044h33",
  "t32h2044h33t31h2044h35t32h2044h35t33h2044h35t34h2044h35t31h2044h36t35h2044h36t31h2044h38",
  "t33h2044h38t35h2044h38t37h2044h38t31h2044t69t69h69t69h69h69t69h76t76t76h69t76h69h69",
  "t76h69h69h69t69h78t78t78h69t78h69h69t6cn2g210at6dt69t69h69t69h69h69t69h76t76t76h69t76h69h69",
  "t76h69h69h69t69h78t78t78h69t78h69h69t6cn2g211at6dv3t2184v5t30h2044h33v2x4v9ct222bh222b",
  "t222bh222bh222bv1t222eh222et222eh222eh222evf8p2gcdfvffx16vbx15n9g242ft31h30t31h31t31h32t31h33",
  "t31h34t31h35t31h36t31h37t31h38t31h39t32h30t28h31h29t28h32h29t28h33h29t28h34h29t28h35h29",
  "t28h36h29t28h37h29t28h38h29t28h39h29t28h31h30h29t28h31h31h29t28h31h32h29t28h31h33h29",
  "t28h31h34h29t28h31h35h29t28h31h36h29t28h31h37h29t28h31h38h29t28h31h39h29t28h32h30h29x14",
  "t28h61h29t28h62h29t28h63h29t28h64h29t28h65h29t28h66h29t28h67h29t28h68h29t28h69h29t28h6ah29",
  "t28h6bh29t28h6ch29t28h6dh29t28h6eh29t28h6fh29t28h70h29t28h71h29t28h72h29t28h73h29t28h74h29",
  "t28h75h29t28h76h29t28h77h29t28h78h29t28h79h29t28h7ah29n1ag2455n1ag246ft30v521",
  "t222bh222bh222bh222bv67t3ah3ah3dt3dh3dt3dh3dh3dv65t2addh338v97x2v8ap30g30v30t2c61v1t26bt1d7d",
  "t27dv2k6t251t271t250t252v1t2c73v2t2c76v6t6at76n2g2a3fk64v7k4v3t2cf3v1x5v2dx1v1x5v1x2v38x7t2d61",
  "v1xev18x9v7x1v7x1v7x1v7x1v7x1v7x1v7x1v7x1v7ex22v1ax1v4t6bcdv53t9f9fxct4e00t4e28t4e36t4e3ft4e59",
  "t4e85t4e8ct4ea0t4ebat513ft5165t516bt5182t5196t51abt51e0t51f5t5200t529bt52f9t5315t531at5338",
  "t5341t535ct5369t5382t53b6t53c8t53e3t56d7t571ft58ebt5902t590at5915t5927t5973t5b50t5b80t5bf8",
  "t5c0ft5c22t5c38t5c6et5c71t5ddbt5de5t5df1t5dfet5e72t5e7at5e7ft5ef4t5efet5f0bt5f13t5f50t5f61",
  "t5f73t5fc3t6208t6236t624bt652ft6534t6587t6597t65a4t65b9t65e0t65e5t66f0t6708t6728t6b20t6b62",
  "t6b79t6bb3t6bcbt6bd4t6bdbt6c0ft6c14t6c34t706bt722at7236t723bt723ft7247t7259t725bt72act7384",
  "t7389t74dct74e6t7518t751ft7528t7530t758bt7592t7676t767dt76aet76bft76eet77dbt77e2t77f3t793a",
  "t79b8t79bet7a74t7acbt7af9t7c73t7cf8t7f36t7f51t7f8at7fbdt8001t800ct8012t8033t807ft8089t81e3",
  "t81eat81f3t81fct820ct821bt821ft826et8272t8278t864dt866bt8840t884ct8863t897et898bt89d2t8a00",
  "t8c37t8c46t8c55t8c78t8c9dt8d64t8d70t8db3t8eabt8ecat8f9bt8fb0t8fb5t9091t9149t91c6t91cct91d1",
  "t9577t9580t961ct96b6t96b9t96e8t9751t975et9762t9769t97cbt97edt97f3t9801t98a8t98dbt98dft9996",
  "t9999t99act9aa8t9ad8t9adft9b25t9b2ft9b32t9b3ct9b5at9ce5t9e75t9e7ft9ea5t9ebbt9ec3t9ecdt9ed1",
  "t9ef9t9efdt9f0et9f13t9f20t9f3bt9f4at9f52t9f8dt9f9ct9fa0x2at20v1t2ev33t3012v1t5341p2g230bv5x1",
  "v56x2v2t20h3099t20h309av2t3088h308av5ft30b3h30c8x5v2bx1n2g2031t11aat1102n2g1f89n3g2034n6g1f8a",
  "t111an3g203bt1121nag203cn15g1feei1n2g2051n2g1fa0t11cct11cet11d3t11d7t11d9t111ct11ddt11df",
  "n2g2054t1120n2g2052t1127t1129n5g204dt1132t1136t1140t1147t114cn2g1f91n3g202dn2g2003t1188n2g1ff9",
  "t1194t119et11a1x1v2t4e00t4e8ct4e09t56dbt4e0at4e2dt4e0bt7532t4e59t4e19t4e01t5929t5730t4ebav46xa",
  "v10t28h1100h29t28h1102h29t28h1103h29t28h1105h29t28h1106h29t28h1107h29t28h1109h29t28h110bh29",
  "t28h110ch29t28h110eh29t28h110fh29t28h1110h29t28h1111h29t28h1112h29t28hac00h29t28hb098h29",
  "t28hb2e4h29t28hb77ch29t28hb9c8h29t28hbc14h29t28hc0ach29t28hc544h29t28hc790h29t28hcc28h29",
  "t28hce74h29t28hd0c0h29t28hd30ch29t28hd558h29t28hc8fch29t28hc624hc804h29t28hc624hd6c4h29x1",
  "t28h4e00h29t28h4e8ch29t28h4e09h29t28h56dbh29t28h4e94h29t28h516dh29t28h4e03h29t28h516bh29",
  "t28h4e5dh29t28h5341h29t28h6708h29t28h706bh29t28h6c34h29t28h6728h29t28h91d1h29t28h571fh29",
  "t28h65e5h29t28h682ah29t28h6709h29t28h793eh29t28h540dh29t28h7279h29t28h8ca1h29t28h795dh29",
  "t28h52b4h29t28h4ee3h29t28h547ch29t28h5b66h29t28h76e3h29t28h4f01h29t28h8cc7h29t28h5354h29",
  "t28h796dh29t28h4f11h29t28h81eah29t28h81f3h29t554ft5e7ct6587t7b8fv8t70h74h65t32h31t32h32t32h33",
  "t32h34t32h35t32h36t32h37t32h38t32h39t33h30t33h31t33h32t33h33t33h34t33h35t1100n2g215fn3g215e",
  "t1109n2g215cn5g215btac00tb098tb2e4tb77ctb9c8tbc14tc0actc544tc790tcc28tce74td0c0td30ctd558",
  "tcc38hace0tc8fchc758tc6b0v1t4e00t4e8ct4e09t56dbt4e94t516dt4e03t516bt4e5dt5341t6708t706bt6c34",
  "t6728t91d1t571ft65e5t682at6709t793et540dt7279t8ca1t795dt52b4t79d8t7537t5973t9069t512at5370",
  "t6ce8t9805t4f11t5199t6b63t4e0at4e2dt4e0bt5de6t53f3t533bt5b97t5b66t76e3t4f01t8cc7t5354t591c",
  "t33h36t33h37t33h38t33h39t34h30t34h31t34h32t34h33t34h34t34h35t34h36t34h37t34h38t34h39t35h30",
  "t31h6708t32h6708t33h6708t34h6708t35h6708t36h6708t37h6708t38h6708t39h6708t31h30h6708t31h31h6708",
  "t31h32h6708t68h67t65h72h67t65h76t6ch74h64t30a2t30a4t30a6t30a8n2g22at30adt30aft30b1t30b3t30b5",
  "t30b7t30b9t30bbt30bdt30bft30c1t30c4t30c6t30c8n6g21at30d2t30d5t30d8t30dbn5g210t30e4t30e6n6g20d",
  "n4g20ct4ee4h548ct30a2h30d1h30fch30c8t30a2h30ebh30d5h30a1t30a2h30f3h30dah30a2t30a2h30fch30eb",
  "t30a4h30cbh30f3h30b0t30a4h30f3h30c1t30a6h30a9h30f3t30a8h30b9h30afh30fch30c9",
  "t30a8h30fch30abh30fct30aah30f3h30b9t30aah30fch30e0t30abh30a4h30eat30abh30e9h30c3h30c8",
  "t30abh30edh30eah30fct30ach30edh30f3t30ach30f3h30det30aeh30act30aeh30cbh30fc",
  "t30adh30e5h30eah30fct30aeh30ebh30c0h30fct30adh30edt30adh30edh30b0h30e9h30e0",
  "t30adh30edh30e1h30fch30c8h30ebt30adh30edh30efh30c3h30c8t30b0h30e9h30e0",
  "t30b0h30e9h30e0h30c8h30f3t30afh30ebh30bch30a4h30edt30afh30edh30fch30cdt30b1h30fch30b9",
  "t30b3h30ebh30cat30b3h30fch30ddt30b5h30a4h30afh30ebt30b5h30f3h30c1h30fch30e0",
  "t30b7h30eah30f3h30b0t30bbh30f3h30c1t30bbh30f3h30c8t30c0h30fch30b9t30c7h30b7t30c9h30eb",
  "t30c8h30f3t30cah30cet30ceh30c3h30c8t30cfh30a4h30c4t30d1h30fch30bbh30f3h30c8t30d1h30fch30c4",
  "t30d0h30fch30ech30ebt30d4h30a2h30b9h30c8h30ebt30d4h30afh30ebt30d4h30b3t30d3h30eb",
  "t30d5h30a1h30e9h30c3h30c9t30d5h30a3h30fch30c8t30d6h30c3h30b7h30a7h30ebt30d5h30e9h30f3",
  "t30d8h30afh30bfh30fch30ebt30dah30bdt30dah30cbh30d2t30d8h30ebh30c4t30dah30f3h30b9",
  "t30dah30fch30b8t30d9h30fch30bft30ddh30a4h30f3h30c8t30dch30ebh30c8t30dbh30f3t30ddh30f3h30c9",
  "t30dbh30fch30ebt30dbh30fch30f3t30deh30a4h30afh30edt30deh30a4h30ebt30deh30c3h30cf",
  "t30deh30ebh30aft30deh30f3h30b7h30e7h30f3t30dfh30afh30edh30f3t30dfh30ea",
  "t30dfh30eah30d0h30fch30ebt30e1h30act30e1h30ach30c8h30f3t30e1h30fch30c8h30ebt30e4h30fch30c9",
  "t30e4h30fch30ebt30e6h30a2h30f3t30eah30c3h30c8h30ebt30eah30e9t30ebh30d4h30fc",
  "t30ebh30fch30d6h30ebt30ech30e0t30ech30f3h30c8h30b2h30f3t30efh30c3h30c8t30h70b9t31h70b9t32h70b9",
  "t33h70b9t34h70b9t35h70b9t36h70b9t37h70b9t38h70b9t39h70b9t31h30h70b9t31h31h70b9t31h32h70b9",
  "t31h33h70b9t31h34h70b9t31h35h70b9t31h36h70b9t31h37h70b9t31h38h70b9t31h39h70b9t32h30h70b9",
  "t32h31h70b9t32h32h70b9t32h33h70b9t32h34h70b9t68h70h61t64h61t61h75t62h61h72t6fh76t70h63t64h6d",
  "t64h6dh32t64h6dh33t69h75t5e73h6210t662dh548ct5927h6b63t660eh6cbbt682ah5f0fh4f1ah793et70h61",
  "t6eh61t3bch61t6dh61t6bh61t6bh62t6dh62t67h62t63h61h6ct6bh63h61h6ct70h66t6eh66t3bch66t3bch67",
  "t6dh67t6bh67t68h7at6bh68h7at6dh68h7at67h68h7at74h68h7at3bch6ct6dh6ct64h6ct6bh6ct66h6dt6eh6d",
  "t3bch6dt6dh6dt63h6dt6bh6dt6dh6dh32t63h6dh32t6dh32t6bh6dh32t6dh6dh33t63h6dh33t6dh33t6bh6dh33",
  "t6dh2215h73t6dh2215h73h32t70h61t6bh70h61t6dh70h61t67h70h61t72h61h64t72h61h64h2215h73",
  "t72h61h64h2215h73h32t70h73t6eh73t3bch73t6dh73t70h76t6eh76t3bch76t6dh76t6bh76t6dh76t70h77t6eh77",
  "t3bch77t6dh77t6bh77t6dh77t6bh3c9t6dh3c9x1t62h71t63h63t63h64t63h2215h6bh67x1t64h62t67h79t68h61",
  "t68h70t69h6et6bh6bt6bh6dt6bh74t6ch6dt6ch6et6ch6fh67t6ch78t6dh62t6dh69h6ct6dh6fh6ct70h68x1",
  "t70h70h6dt70h72t73h72t73h76t77h62t76h2215h6dt61h2215h6dt31h65e5t32h65e5t33h65e5t34h65e5",
  "t35h65e5t36h65e5t37h65e5t38h65e5t39h65e5t31h30h65e5t31h31h65e5t31h32h65e5t31h33h65e5",
  "t31h34h65e5t31h35h65e5t31h36h65e5t31h37h65e5t31h38h65e5t31h39h65e5t32h30h65e5t32h31h65e5",
  "t32h32h65e5t32h33h65e5t32h34h65e5t32h35h65e5t32h36h65e5t32h37h65e5t32h38h65e5t32h39h65e5",
  "t33h30h65e5t33h31h65e5t67h61h6cv708dx3v37x9v15cx14k2ev12k1ct44at44cv5ax8v22kev2k3eta76fv8k4",
  "t1d79kav3ta78cv1t265v2k4v2k14t266t25ct261t26ct26av1t29et287t29dtab53k10ta794t282t1d8ek4t264k10",
  "t19bx14t73t63t66t71ta7f6v2t127t153v33x3vax6v38x8v46x8vcx6v74xbv1ex3v4ex1vbx4v21x1v37x9vex2vax2",
  "v67x18v1cxav6x2v6x2v6x9v7x1v7x1v2cta727tab37t26btab52v9t28dv2x4n50g97d0v2ex2vax6v2ba4xcv17x4",
  "v31x2104t8c48t66f4t8ecat8cc8t6ed1t4e32t53e5t9f9ct9f9ct5951t91d1t5587t5948t61f6t7669t7f85t863f",
  "t87bat88f8t908ft6a02t6d1bt70d9t73det843dt916at99f1t4e82t5375t6b04t721bt862dt9e1et5d50t6feb",
  "t85cdt8964t62c9t81d8t881ft5ecat6717t6d6at72fct90cet4f86t51b7t52det64c4t6ad3t7210t76e7t8001",
  "t8606t865ct8deft9732t9b6ft9dfat788ct797ft7da0t83c9t9304t9e7ft8ad6t58dft5f04t7c60t807et7262",
  "t78cat8cc2t96f7t58d8t5c62t6a13t6ddat6f0ft7d2ft7e37t964bt52d2t808bt51dct51cct7a1ct7dbet83f1",
  "t9675t8b80t62cft6a02t8afet4e39t5be7t6012t7387t7570t5317t78fbt4fbft5fa9t4e0dt6ccct6578t7d22",
  "t53c3t585et7701t8449t8aaat6bbat8fb0t6c88t62fet82e5t63a0t7565t4eaet5169t51c9t6881t7ce7t826f",
  "t8ad2t91cft52f5t5442t5973t5eect65c5t6ffet792at95adt9a6at9e97t9ecet529bt66c6t6b77t8f62t5e74",
  "t6190t6200t649at6f23t7149t7489t79cat7df4t806ft8f26t84eet9023t934at5217t52a3t54bdt70c8t88c2",
  "t8aaat5ec9t5ff5t637bt6baet7c3et7375t4ee4t56f9t5be7t5dbat601ct73b2t7469t7f9at8046t9234t96f6",
  "t9748t9818t4f8bt79aet91b4t96b8t60e1t4e86t50dat5beet5c3ft6599t6a02t71cet7642t84fct907ct9f8d",
  "t6688t962et5289t677bt67f3t6d41t6e9ct7409t7559t786bt7d10t985et516dt622et9678t502bt5d19t6dea",
  "t8f2at5f8bt6144t6817t7387t9686t5229t540ft5c65t6613t674et68a8t6ce5t7406t75e2t7f79t88cft88e1",
  "t91cct96e2t533ft6ebat541dt71d0t7498t85fat96a3t9c57t9e9ft6797t6dcbt81e8t7acbt7b20t7c92t72c0",
  "t7099t8b58t4ec0t8336t523at5207t5ea6t62d3t7cd6t5b85t6d1et66b4t8f3bt884ct964dt898bt5ed3t5140",
  "t55c0v2t585av1t6674v2t51det732at76cat793ct795et7965t798ft9756t7cbet7fbdv1t8612v1t8af8v2t9038",
  "t90fdv3t98eft98fct9928t9db4t90det96b7t4faet50e7t514dt52c9t52e4t5351t559dt5606t5668t5840t58a8",
  "t5c64t5c6et6094t6168t618et61f2t654ft65e2t6691t6885t6d77t6e1at6f22t716et722bt7422t7891t793e",
  "t7949t7948t7950t7956t795dn2g80c5t7a40t7a81t7bc0t7df4t7e09t7e41t7f72t8005t81edt8279t8279t8457",
  "t8910t8996t8b01t8b39t8cd3t8d08t8fb6t9038t96e3t97fft983bt6075t242eet8218x2t4e26t51b5t5168t4f80",
  "t5145t5180t52c7t52fat559dt5555t5599t55e2t585at58b3t5944t5954t5a62t5b28t5ed2t5ed9t5f69t5fad",
  "t60d8t614et6108t618et6160t61f2t6234t63c4t641ct6452t6556t6674t6717t671bt6756t6b79t6bbat6d41",
  "t6edbt6ecbt6f22t701et716et77a7t7235t72aft732at7471t7506t753bt761dt761ft76cat76dbt76f4t774a",
  "t7740t78cct7ab1t7bc0t7c7bt7d5bt7df4t7f3et8005t8352t83eft8779t8941t8986t8996t8abft8af8t8acb",
  "t8b01t8afet8aedt8b39t8b8at8d08t8f38t9072t9199t9276t967ct96e3t9756t97dbt97fft980bt983bt9b12",
  "t9f9ct2284at22844t233d5t3b9dt4018t4039t25249t25cd0t27ed3t9f43t9f8ex26t66h66t66h69t66h6c",
  "t66h66h69t66h66h6ct73h74t73h74xct574h576t574h565t574h56bt57eh576t574h56dx5t5d9h5b4v1t5f2h5b7",
  "t5e2t5d0n2gf54fn3gf549t5e8t5eat2bt5e9h5c1t5e9h5c2t5e9h5bch5c1t5e9h5bch5c2t5d0h5b7t5d0h5b8",
  "t5d0h5bct5d1h5bct5d2h5bct5d3h5bct5d4h5bct5d5h5bct5d6h5bcx1t5d8h5bct5d9h5bct5dah5bct5dbh5bc",
  "t5dch5bcx1t5deh5bcx1t5e0h5bct5e1h5bcx1t5e3h5bct5e4h5bcx1t5e6h5bct5e7h5bct5e8h5bct5e9h5bc",
  "t5eah5bct5d5h5b9t5d1h5bft5dbh5bft5e4h5bft5d0h5dct671t671t67bt67bt67bt67bt67et67et67et67et680",
  "t680t680t680t67at67at67at67at67ft67ft67ft67ft679t679t679t679t6a4t6a4t6a4t6a4t6a6t6a6t6a6t6a6",
  "t684t684t684t684t683t683t683t683t686t686t686n2gf4f7t687t687t687t68dt68dt68ct68ct68et68et688",
  "t688t698t698t691t691t6a9t6a9t6a9t6a9t6aft6aft6aft6aft6b3t6b3t6b3t6b3t6b1t6b1t6b1t6b1t6ba",
  "n2gf4e5t6bbt6bbt6bbt6c0n2gf4e5t6c1t6c1t6c1t6bet6bet6bet6bet6d2n2gf4ddt6d3v21t6adt6adt6adt6ad",
  "t6c7t6c7t6c6t6c6t6c8t6c8t6c7h674t6cbt6cbt6c5t6c5t6c9t6c9t6d0t6d0t6d0t6d0t649t649t626h627",
  "t626h627t626h6d5t626h6d5t626h648t626h648t626h6c7t626h6c7t626h6c6t626h6c6t626h6c8t626h6c8",
  "t626h6d0t626h6d0t626h6d0t626h649t626h649t626h649t6cct6cct6cct6cct626h62ct626h62dt626h645",
  "t626h649t626h64at628h62ct628h62dt628h62et628h645t628h649t628h64at62ah62ct62ah62dt62ah62e",
  "t62ah645t62ah649t62ah64at62bh62ct62bh645t62bh649t62bh64at62ch62dt62ch645t62dh62ct62dh645",
  "t62eh62ct62eh62dt62eh645t633h62ct633h62dt633h62et633h645t635h62dt635h645t636h62ct636h62d",
  "t636h62et636h645t637h62dt637h645t638h645t639h62ct639h645t63ah62ct63ah645t641h62ct641h62d",
  "t641h62et641h645t641h649t641h64at642h62dt642h645t642h649t642h64at643h627t643h62ct643h62d",
  "t643h62et643h644t643h645t643h649t643h64at644h62ct644h62dt644h62et644h645t644h649t644h64a",
  "t645h62ct645h62dt645h62et645h645t645h649t645h64at646h62ct646h62dt646h62et646h645t646h649",
  "t646h64at647h62ct647h645t647h649t647h64at64ah62ct64ah62dt64ah62et64ah645t64ah649t64ah64a",
  "t630h670t631h670t649h670t20h64ch651t20h64dh651t20h64eh651t20h64fh651t20h650h651t20h651h670",
  "t626h631t626h632t626h645t626h646t626h649t626h64at628h631t628h632t628h645t628h646t628h649",
  "t628h64at62ah631t62ah632t62ah645t62ah646t62ah649t62ah64at62bh631t62bh632t62bh645t62bh646",
  "t62bh649t62bh64at641h649t641h64at642h649t642h64at643h627t643h644t643h645t643h649t643h64a",
  "t644h645t644h649t644h64at645h627t645h645t646h631t646h632t646h645t646h646t646h649t646h64a",
  "t649h670t64ah631t64ah632t64ah645t64ah646t64ah649t64ah64at626h62ct626h62dt626h62et626h645",
  "t626h647t628h62ct628h62dt628h62et628h645t628h647t62ah62ct62ah62dt62ah62et62ah645t62ah647",
  "t62bh645t62ch62dt62ch645t62dh62ct62dh645t62eh62ct62eh645t633h62ct633h62dt633h62et633h645",
  "t635h62dt635h62et635h645t636h62ct636h62dt636h62et636h645t637h62dt638h645t639h62ct639h645",
  "t63ah62ct63ah645t641h62ct641h62dt641h62et641h645t642h62dt642h645t643h62ct643h62dt643h62e",
  "t643h644t643h645t644h62ct644h62dt644h62et644h645t644h647t645h62ct645h62dt645h62et645h645",
  "t646h62ct646h62dt646h62et646h645t646h647t647h62ct647h645t647h670t64ah62ct64ah62dt64ah62e",
  "t64ah645t64ah647t626h645t626h647t628h645t628h647t62ah645t62ah647t62bh645t62bh647t633h645",
  "t633h647t634h645t634h647t643h644t643h645t644h645t646h645t646h647t64ah645t64ah647t640h64eh651",
  "t640h64fh651t640h650h651t637h649t637h64at639h649t639h64at63ah649t63ah64at633h649t633h64a",
  "t634h649t634h64at62dh649t62dh64at62ch649t62ch64at62eh649t62eh64at635h649t635h64at636h649",
  "t636h64at634h62ct634h62dt634h62et634h645t634h631t633h631t635h631t636h631t637h649t637h64a",
  "t639h649t639h64at63ah649t63ah64at633h649t633h64at634h649t634h64at62dh649t62dh64at62ch649",
  "t62ch64at62eh649t62eh64at635h649t635h64at636h649t636h64at634h62ct634h62dt634h62et634h645",
  "t634h631t633h631t635h631t636h631t634h62ct634h62dt634h62et634h645t633h647t634h647t637h645",
  "t633h62ct633h62dt633h62et634h62ct634h62dt634h62et637h645t638h645t627h64bt627h64bv12",
  "t62ah62ch645t62ah62dh62ct62ah62dh62ct62ah62dh645t62ah62eh645t62ah645h62ct62ah645h62d",
  "t62ah645h62et62ch645h62dt62ch645h62dt62dh645h64at62dh645h649t633h62dh62ct633h62ch62d",
  "t633h62ch649t633h645h62dt633h645h62dt633h645h62ct633h645h645t633h645h645t635h62dh62d",
  "t635h62dh62dt635h645h645t634h62dh645t634h62dh645t634h62ch64at634h645h62et634h645h62e",
  "t634h645h645t634h645h645t636h62dh649t636h62eh645t636h62eh645t637h645h62dt637h645h62d",
  "t637h645h645t637h645h64at639h62ch645t639h645h645t639h645h645t639h645h649t63ah645h645",
  "t63ah645h64at63ah645h649t641h62eh645t641h62eh645t642h645h62dt642h645h645t644h62dh645",
  "t644h62dh64at644h62dh649t644h62ch62ct644h62ch62ct644h62eh645t644h62eh645t644h645h62d",
  "t644h645h62dt645h62dh62ct645h62dh645t645h62dh64at645h62ch62dt645h62ch645t645h62eh62c",
  "t645h62eh645v2t645h62ch62et647h645h62ct647h645h645t646h62dh645t646h62dh649t646h62ch645",
  "t646h62ch645t646h62ch649t646h645h64at646h645h649t64ah645h645t64ah645h645t628h62eh64a",
  "t62ah62ch64at62ah62ch649t62ah62eh64at62ah62eh649t62ah645h64at62ah645h649t62ch645h64a",
  "t62ch62dh649t62ch645h649t633h62eh649t635h62dh64at634h62dh64at636h62dh64at644h62ch64a",
  "t644h645h64at64ah62dh64at64ah62ch64at64ah645h64at645h645h64at642h645h64at646h62dh64a",
  "t642h645h62dt644h62dh645t639h645h64at643h645h64at646h62ch62dt645h62eh64at644h62ch645",
  "t643h645h645t644h62ch645t646h62ch62dt62ch62dh64at62dh62ch64at645h62ch64at641h645h64a",
  "t628h62dh64at643h645h645t639h62ch645t635h645h645t633h62eh64at646h62ch64av8x20t635h644h6d2",
  "t642h644h6d2t627h644h644h647t627h643h628h631t645h62dh645h62ft635h644h639h645t631h633h648h644",
  "t639h644h64ah647t648h633h644h645t635h644h649",
  "t635h644h649h20h627h644h644h647h20h639h644h64ah647h20h648h633h644h645",
  "t62ch644h20h62ch644h627h644h647t631h6cch627h644v3i10t2ct3001x1n2gfdd9t21t3fn2gce01x7v10x1t2014",
  "t2013t5ft5fn2gfe0dt7bt7dn2gce25n2gce2bn2gce33n2gce37n4gce35v2t5bt5dt20h305t20h305t20h305",
  "t20h305t5ft5ft5ft2ct3001x2t3bt3at3ft21t2014n2gfe31t7bt7dn2gce49t23t26n2gfe37t2dt3ct3et3dx1t5c",
  "n2gfe45t40x4t20h64bt640h64bt20h64cv1t20h64dx1t20h64et640h64et20h64ft640h64ft20h650t640h650",
  "t20h651t640h651t20h652t640h652n2gf85fn2gf860n2gf861n2gf862n2gf863t626t626n2gf866n2gf867t628",
  "t628n2gf86an2gf86bt62at62an2gf86et62bt62bn2gf871t62ct62cn2gf874t62dt62dn2gf877t62et62en2gf87a",
  "n2gf87bn2gf87cn2gf87dn2gf87et633t633n2gf881t634t634n2gf884t635t635n2gf887t636t636n2gf88at637",
  "t637n2gf88dt638t638n2gf890t639t639n2gf893t63at63at63at641t641t641n2gf893t642t642n2gf896t643",
  "t643n2gf899t644t644n2gf89ct645t645n2gf89ft646t646n2gf8a2t647t647n2gf8a5n2gf8a6n2gf8a7t64at64a",
  "t64at644h622t644h622t644h623t644h623t644h625t644h625t644h627t644h627x2i1x1n20gfee0n1agfec0",
  "n24gfee0n2gd5dat2en2gcf56t3001t30fbt30f2t30a1t30a3t30a5t30a7t30a9t30e3t30e5t30e7t30c3t30fc",
  "t30a2t30a4t30a6t30a8n2gcecbt30adt30aft30b1t30b3t30b5t30b7t30b9t30bbt30bdt30bft30c1t30c4t30c6",
  "t30c8n6gcebbt30d2t30d5t30d8t30dbn5gceb1t30e4t30e6n6gceaet30eft30f3n2gcf05i1n2geea1t11aat1102",
  "n2gedf9n3geea4n6gedfat111an3geeabt1121nageeacx3n6gee61x2n6gee63x2n6gee65x2n3gee67x3n2gff3etac",
  "t20h304ta6ta5t20a9x1t2502n4gde59t25a0t25cbx11vcx1v1ax1v13x1v2x1vfx2vex22v7bx5v3x4v2dx3v58x1vd",
  "x3v1x2fv2ex82v1dx3v31xfv1cx4v24x9v1ex5v2bx5v1ex1v25x4vex2ap28g28v76x2vax6p24g28x4v24x4v28x8v34",
  "xbv1pbg27x1pfg27x1p7g27x1p2g27x1vbx1vfx1v7x1v2x3v34xcv137x9v16xav8x18v1n2g104b1te6t299t253x1",
  "t2a3tab66t2a5t2a4n2g10535t1d91t258t25et2a9t264t262t260t29bt127t29ct267t284n2g104eft26ct1df04",
  "ta78et26et1df05t28et1df06tf8n2g1052dt71t27at1df08n2g1052bt280t2a8t2a6tab67t2a7t288t2c71x1t28f",
  "n2g10512t298n3g105f6t1df0at1df1ex45v6x2v1x1v2cx1v2x3v1x2v17x1v48x8v9x30v13x1v2x5v21x3v1bx5v1b",
  "x26v38x4v14x2v32x1v2x5v8x1v3x1v1dx2v3x4vax7v9x7v40x20v27x4vcx9v36x3v1dx2v1bx5v1ax7v4xcv7x50v49",
  "x37p33g40xdv33x7v2ex8vax6v10p16g20x3v1dx8v2xd0v1fx1v2ax1v3x2v2x10v6x8v9x21v2ex8v2ax16v1ax26v1c",
  "x14v17x9v4ex4v24x9v3ex1v5xdv19x7vax6v35x1v12x8v27x9v60x1v14xbv12x1v2fx3ev7x1v1x1v4x1vfx1vbx6",
  "v3bx5vax6v4x1v8x2v2x2v16x1v7x1v2x1v5x1vax2v2x2v3x2v1x6v1x5v7x2v7x3v5xbvax1v1x2v1x1v26x1vax1v1",
  "x2v1x1v4x1vax1v2x8v2x1dv5cx1v5x1ev48x8vaxa6v36x2v26x22v45xbvax6vdx13v3ax6vax6v14x1cv1bx2vfx4",
  "v17xb9v3cx64p20g20v33xcv8x2v1x2v8x1v2x1v1ex1v2x2vcx9vax46v8x2v2ex2vbx1bv48x8v53xdv49x7vax56v8",
  "x58v22xevax6v9x1v2dx1vexav1dx3v20x2v16x1vex49v7x1v2x1v2cx3v1x1v2x1v9x8vax6v6x1v2x1v25x1v2x1v6",
  "x7vax6v2cx4vaxf6v19x7v11x1v29x3v1dx55v1xfv32xdv39bx66v6fx1v5xbvc4xa4cv63xdv430x10v16xavf9bx5",
  "v247x1ab9v3ax6c6v239x7v1fx1vax4v51x1vax6v1ex2v6xav46xavax1v7x1v15x5v13x1b0v3axc6p20g20v3bx5",
  "p19g1bx2v19x2cv4bx4v39x7v11x40v5xbv7x9v1cd6x29v20x61v73x21fdv4x1v7x1v2x1v123xfv1x1dv3x2v1xev4",
  "x8v18cx904v6bx5vdx3v9x7vax2v4i4xf5cvd6n1ag1cc75nag1ccc0v3x3v1b4x6v17xfv11xfv2ex2v17x9v74x3cvf6",
  "xav27x2v35t1d157h1d165t1d158h1d165t1d158h1d165h1d16et1d158h1d165h1d16ft1d158h1d165h1d170",
  "t1d158h1d165h1d171t1d158h1d165h1d172vei8v40t1d1b9h1d165t1d1bah1d165t1d1b9h1d165h1d16e",
  "t1d1bah1d165h1d16et1d1b9h1d165h1d16ft1d1bah1d165h1d16fv2ax15v46x7av14xcv14xcv57x9v19x87",
  "n1ag1d39fn1ag1d3b9n1ag1d3d3n7g1d3edx1n12g1d3edn1ag1d407n1ag1d421t61x1n2g1d43bx2t67x2n2g1d43bx2",
  "n4g1d43bx1n8g1d43bn4g1d455x1t66x1n7g1d455x1nbg1d455n1ag1d46fn1ag1d489n2g1d4a3x1n4g1d4a3x2",
  "n8g1d4a3x1n7g1d4a3x1n1ag1d4bdn2g1d4d7x1n4g1d4d7x1n5g1d4d7x1t6fx3n7g1d4d7x1n1ag1d4f1n1ag1d50b",
  "n1ag1d525n1ag1d53fn1ag1d559n1ag1d573n1ag1d58dn1ag1d5a7n1ag1d5c1n1ag1d5dbn1ag1d5f5n1ag1d60f",
  "n1ag1d629t131t237x2n11g1d2f7t3b8n7g1d2f7t2207n11g1d311t3c3n7g1d311t2202t3b5t3b8t3bat3c6t3c1",
  "t3c0n11g1d331t3b8n7g1d331t2207n11g1d34bt3c3n7g1d34bt2202t3b5t3b8t3bat3c6t3c1t3c0n11g1d36bt3b8",
  "n7g1d36bt2207n11g1d385t3c3n7g1d385t2202t3b5t3b8t3bat3c6t3c1t3c0n11g1d3a5t3b8n7g1d3a5t2207",
  "n11g1d3bft3c3n7g1d3bft2202t3b5t3b8t3bat3c6t3c1t3c0n11g1d3dft3b8n7g1d3dft2207n11g1d3f9t3c3",
  "n7g1d3f9t2202t3b5t3b8t3bat3c6t3c1t3c0t3ddt3ddx2nag1d79enag1d7a8nag1d7b2nag1d7bcnag1d7c6v28cxf",
  "v5x1vfx450v1fx6v6xd5v7x1v11x2v7x1v2x1v5x5n9g1dc00n3g1dbffnbg1dbfet44bn2g1dbfbta689t4d9t456t458",
  "t4e9t4aft4cfn9g1dc21n2g1dc20n2g1dc1et441n6g1dc1cn2g1dc1bt491t456t455t45ft4abta651t4b1x21v1x70",
  "v2dx3vex2vax4v2x140v1fx11v3ax5v1x1d0v2axd6v2bx4v1xc0v1fx1v16x8v2xe0v7x1v4x1v2x1vfx1vc5x2v10x29",
  "p22g22v2ax4vax4v2x311v44x4cv3dxc2n2g1e7d9t62ct62fx1t648t632t62dt637t64an4g1e7c7t633t639t641",
  "t635t642t631t634n2g1e7ebt62et630t636t638t63at66et6bat6a1t66fx1t628t62cx1t647x2t62dx1t64a",
  "n4g1e7e7t633t639t641t635t642x1t634n2g1e80bt62ex1t636x1t63ax6t62cx4t62dx1t64ax1t644x1t646t633",
  "t639x1t635t642x1t634x2t62ex1t636x1t63ax1t6bax1t66fx1t628t62cx1t647x2t62dt637t64at643x1n2g1e827",
  "t633t639t641t635t642x1t634n2g1e84bt62ex1t636t638t63at66ex1t6a1x1n2g1e859t62ct62fn2g1e83dt632",
  "t62dt637t64ax1n3g1e847t633t639t641t635t642t631t634n2g1e86bt62et630t636t638t63ax5t628t62ct62fx1",
  "t648t632t62dt637t64ax1n3g1e867t633t639t641t635t642t631t634n2g1e88bt62et630t636t638t63ax34v2",
  "x10ev2cx4v64xcvfx2vfx1vfx1v25xbt30h2ct31h2ct32h2ct33h2ct34h2ct35h2ct36h2ct37h2ct38h2ct39h2cv5",
  "t28h61h29t28h62h29t28h63h29t28h64h29t28h65h29t28h66h29t28h67h29t28h68h29t28h69h29t28h6ah29",
  "t28h6bh29t28h6ch29t28h6dh29t28h6eh29t28h6fh29t28h70h29t28h71h29t28h72h29t28h73h29t28h74h29",
  "t28h75h29t28h76h29t28h77h29t28h78h29t28h79h29t28h7ah29t3014h73h3015t63t72t63h64t77h7av1",
  "n1ag1f0cft68h76t6dh76t73h64t73h73t70h70h76t77h63v1at6dh63t6dh64t6dh72v23t64h6av1dx38v1a",
  "t307bh304bt30b3h30b3t30b5xdt624bt5b57t53cct30c7t4e8ct591at89e3t5929t4ea4t6620t7121t6599t524d",
  "t5f8ct518dt65b0t521dt7d42t751ft8ca9t58f0t5439t6f14t6295t6355t4e00t4e09t904at5de6t4e2dt53f3",
  "t6307t8d70t6253t7981t7a7at5408t6e80t6709t6708t7533t5272t55b6t914dx4t3014h672ch3015",
  "t3014h4e09h3015t3014h4e8ch3015t3014h5b89h3015t3014h70b9h3015t3014h6253h3015t3014h76d7h3015",
  "t3014h52ddh3015t3014h6557h3015x7t5f97t53efxev6x9av3d9x3v11x3vdx3vdax6vcx4v1xfvcx4v38x8vax6v28",
  "x8v1ex2vcx4v2xev9x27v158x8vex2vdx3vbx3v39x1v1x4v10x2vcx4vax7v93x1v5cnag1fbc0v1x405va6e0x20",
  "v111ex2v168ex2v1d31xfv26ex9a2t4e3dt4e38t4e41t20122t4f60t4faet4fbbt5002t507at5099t50e7t50cf",
  "t349et2063at514dt5154t5164t5177t2051ct34b9t5167t518dt2054bt5197t51a4t4ecct51act51b5t291dft51f5",
  "t5203t34dft523bt5246t5272t5277t3515t52c7t52c9t52e4t52fan2g2a524t5317t5349t5351t535at5373t537d",
  "t537ft537ft537ft20a2ct7070t53cat53dft20b63t53ebt53f1t5406t549et5438t5448t5468t54a2t54f6t5510",
  "t5553t5563t5584t5584t5599t55abt55b3t55c2t5716t5606t5717t5651t5674t5207t58eet57cet57f4t580d",
  "t578bt5832t5831t58act214e4t58f2t58f7t5906t591at5922t5962t216a8t216eat59ect5a1bt5a27t59d8t5a66",
  "t36eet36fct5b08t5b3et5b3et219c8t5bc3t5bd8t5be7t5bf3t21b18t5bfft5c06t5f53t5c22t3781t5c60t5c6e",
  "t5cc0t5c8dt21de4t5d43t21de6t5d6et5d6bt5d7cn2g29aa0t382ft5dfdt5e28t5e3dt5e69t3862t22183t387c",
  "t5eb0t5eb3t5eb6t5ecat2a392t5efet22331t22331t8201t5f22t5f22t38c7t232b8t261dat5f62t5f6bt38e3",
  "t5f9at5fcdt5fd7t5ff9t6081t393at391ct6094t226d4t60c7t6148t614ct614et614ct617at618et61b2t61a4",
  "t61aft61det61f2t61f6t6210t621bt625dt62b1t62d4t6350t22b0ct633dt62fct6368t6383t63e4t22bf1t6422",
  "t63c5t63a9t3a2et6469t647et649dt6477t3a6ct654ft656ct2300at65e3t66f8t6649t3b19t6691t3b08t3ae4",
  "t5192t5195t6700t669ct80adt43d9t6717t671bt6721t675et6753t233c3t3b49t67fat6785t6852t6885t2346d",
  "t688et681ft6914t3b9dt6942t69a3t69eat6aa8t236a3t6adbt3c18t6b21t238a7t6b54t3c4et6b72t6b9f",
  "n2g28d3bt23a8dt21d0bt23afat6c4et23cbct6cbft6ccdt6c67t6d16t6d3et6d77t6d41t6d69t6d78t6d85t23d1e",
  "t6d34t6e2ft6e6et3d33t6ecbt6ec7t23ed1t6df9t6f6et23f5et23f8et6fc6t7039t701et701bt3d96t704at707d",
  "t7077t70adt20525t7145t24263t719ct243abt7228t7235t7250t24608t7280t7295t24735t24814t737at738b",
  "t3eact73a5t3eb8t3eb8t7447t745ct7471t7485t74cat3f1bt7524t24c36t753et24c92t7570t2219ft7610t24fa1",
  "t24fb8t25044t3ffct4008t76f4t250f3t250f2t25119t25133n2g28227t771ft774at4039t778bt4046t4096",
  "t2541dt784et788ct78cct40e3t25626t7956t2569at256c5t798ft79ebt412ft7a40t7a4at7a4ft2597ct25aa7",
  "t25aa7t7aeet4202t25babt7bc6t7bc9t4227t25c80t7cd2t42a0t7ce8t7ce3t7d00t25f86t7d63t4301t7dc7t7e02",
  "t7e45t4334t26228t26247t4359t262d9t7f7at2633et7f95t7ffat8005t264dat26523t8060t265a8t8070t2335f",
  "t43d5t80b2t8103t440bt813et5ab5t267a7t267b5t23393t2339ct8201t8204t8f9et446bt8291t828bt829dt52b3",
  "t82b1t82b3t82bdt82e6t26b3ct82e5t831dt8363t83adt8323t83bdt83e7t8457t8353t83cat83cct83dct26c36",
  "t26d6bt26cd5t452bt84f1t84f3t8516t273cat8564t26f2ct455dt4561t26fb1t270d2t456bt8650t865ct8667",
  "t8669t86a9t8688t870et86e2t8779t8728t876bt8786t45d7t87e1t8801t45f9t8860t8863t27667t88d7t88de",
  "t4635t88fat34bbt278aet27966t46bet46c7t8aa0t8aedt8b8at8c55t27ca8t8cabt8cc1t8d1bt8d77t27f2f",
  "t20804t8dcbt8dbct8df0t208det8ed4t8f38t285d2t285edt9094t90f1t9111t2872et911bt9238n2g26711t927c",
  "t93f9t9415t28bfat958bt4995t95b7t28d77t49e6t96c3t5db2t9723t29145t2921at4a6et4a76t97e0t2940a",
  "t4ab2t29496t980bt980bt9829t295b6t98e2t4b33t9929t99a7t99c2t99fet4bcet29b30t9b12t9c40t9cfdt4cce",
  "t4cedt9d67t2a0cet4cf8t2a105t2a20et2a291t9ebbt4d56t9ef9t9efet9f05t9f0ft9f16t9f3bt2a600x5e2v134b",
  "x5v212axacc86if0x2fe10"]

/-- Adds a run to the spans before it, which are listed from the last one. -/
def addRun (spans : List Span) (r : Text.Run) : List Span :=
  match r.kind, spans with
  | 'g', ⟨.up _, count⟩ :: rest => ⟨.up r.length, count⟩ :: rest
  | 'g', ⟨.down _, count⟩ :: rest => ⟨.down r.length, count⟩ :: rest
  | 'h', ⟨.replace cs, count⟩ :: rest => ⟨.replace (cs ++ [Char.ofNat r.length]), count⟩ :: rest
  | 't', spans => ⟨.replace [Char.ofNat r.length], 1⟩ :: spans
  | 'v', spans => ⟨.keep, r.length⟩ :: spans
  | 'i', spans => ⟨.drop, r.length⟩ :: spans
  | 'p', spans => ⟨.up 0, r.length⟩ :: spans
  | 'n', spans => ⟨.down 0, r.length⟩ :: spans
  | 'k', spans => ⟨.alternate, r.length⟩ :: spans
  | _, spans => ⟨.refuse, r.length⟩ :: spans

def mapping : List Span := ((Text.Run.ofRows mappingRows).foldl addRun []).reverse

/-- The fate of a code point, and how many of its span come before it. -/
def fateIn : List Span → Nat → Fate × Nat
  | [], _ => (.refuse, 0)
  | s :: rest, n => if n < s.count then (s.fate, n) else fateIn rest (n - s.count)

/-- What a character becomes; nothing when no name may hold it. -/
def mapChar? (c : Char) : Option (List Char) :=
  match fateIn mapping c.toNat with
  | (.keep, _) => some [c]
  | (.drop, _) => some []
  | (.refuse, _) => none
  | (.up distance, _) => some [Char.ofNat (c.toNat + distance)]
  | (.down distance, _) => some [Char.ofNat (c.toNat - distance)]
  | (.alternate, n) => some [if n % 2 = 0 then Char.ofNat (c.toNat + 1) else c]
  | (.replace cs, _) => some cs

def isKept (c : Char) : Bool := mapChar? c = some [c]

def map? (cs : List Char) : Option (List Char) := (cs.mapM mapChar?).map List.flatten

end GeoFleet.Url.Name
