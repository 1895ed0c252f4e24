import FormValidity.Unicode.Script

/-! # Script extensions

Some characters are in use in several scripts, or in scripts other than the one they
are assigned to. For these the table lists the codes of those scripts, one after the
other.
-/

namespace FormValidity

namespace Unicode

/-- The runs of characters with equal lists of scripts; `None` where the script of a
character is the only one. -/
def scriptExtensionLines : List String := [
  "0None b7AvstCariCoptDuplElbaGeorGlagGongGothGrekHaniLatnLydiMahjPermShaw b8None",
  "2bcBengCyrlDevaLatnLisuThaiToto 2bdNone 2c7BopoLatn 2c8None 2c9BopoLatn 2ccNone 2cdLatnLisu",
  "2ceNone 2d7LatnThai 2d8None 2d9BopoLatn 2daNone 300CherCoptCyrlGrekLatnPermSunuTale",
  "301CherCyrlGrekLatnOsgeSunuTaleTodr 302CherCyrlLatnTfng 303GlagLatnSunuSyrcThai",
  "304AghbCherCoptCyrlGothGrekLatnOsgeSyrcTfngTodr 305CoptElbaGlagGothKanaLatn",
  "306CyrlGrekLatnPermTfng 307CoptDuplHebrLatnPermSyrcTaleTfngTodr",
  "308ArmnCyrlDuplGothGrekHebrLatnPermSyrcTaleTfng 309LatnTfng 30aDuplLatnSyrc",
  "30bCherCyrlLatnOsge 30cCherLatnTale 30dLatnSunu 30eEthiLatn 30fNone 310LatnSunu",
  "311CyrlLatnTodr 312None 313GrekLatnPermTodr 314None 323CherDuplKanaLatnSyrcTfng",
  "324CherDuplLatnSyrc 325LatnSyrc 326None 32dLatnSunuSyrc 32eLatnSyrc 32fNone 330CherLatnSyrc",
  "331AghbCherGothLatnSunuSyrcThai 332None 342Grek 343None 345Grek 346None 358LatnOsge 359None",
  "35eAghbLatnTodr 35fNone 363Latn 370None 374CoptGrek 376None 483CyrlPerm 484CyrlGlag",
  "485CyrlLatn 487CyrlGlag 488None 589ArmnGeorGlag 58aNone 60cArabGaraNkooRohgSyrcThaaYezi",
  "60dNone 61bArabGaraNkooRohgSyrcThaaYezi 61cArabSyrcThaa 61dNone",
  "61fAdlmArabGaraNkooRohgSyrcThaaYezi 620None 640AdlmArabMandManiOugrPhlpRohgSogdSyrc 641None",
  "64bArabSyrc 656None 660ArabThaaYezi 66aNone 670ArabSyrc 671None 6d4ArabRohg 6d5None",
  "951BengDevaGranGujrGuruKndaLatnMlymNandNewaOryaShrdTamlTeluTirh",
  "952BengDevaGranGujrGuruKndaLatnMlymNewaOryaTamlTeluTirh 953None",
  "964BengDevaDogrGongGonmGranGujrGuruKndaMahjMlymNandOnaoOryaSindSinhSyloTakrTamlTeluTirh",
  "965BengDevaDogrGongGonmGranGujrGukhGuruKndaLimbMahjMlymNandOnaoOryaSindSinhSyloTakrTamlTeluTirh",
  "966DevaDogrKthiMahj 970None 9e6BengCakmSylo 9f0None a66GuruMult a70None ae6GujrKhoj af0None",
  "be6GranTaml bf4None ce6KndaNandTutg cf0None 1040CakmMymrTale 104aNone 10fbGeorGlagLatn",
  "10fcNone 16ebRunr 16eeNone 1735BuhdHanoTagbTglg 1737None 1802MongPhag 1804None 1805MongPhag",
  "1806None 1cd0BengDevaGranKnda 1cd1Deva 1cd2BengDevaGranKnda 1cd3DevaGranKnda 1cd4Deva",
  "1cd5BengDevaNewaTeluTirh 1cd6BengDevaTelu 1cd7DevaNewaShrd 1cd8BengDevaNewaTelu 1cd9DevaShrd",
  "1cdaDevaKndaMlymOryaTamlTelu 1cdbDeva 1cdcDevaShrd 1cdeDeva 1ce0DevaShrd 1ce1BengDeva",
  "1ce2DevaNewaTirh 1ce3Deva 1ce9DevaNandNewa 1ceaBengDevaShrd 1cebDevaNewa 1cecDeva",
  "1cedBengDevaNewaShrd 1ceeDeva 1cf2BengDevaGranKndaMlymNandOryaSinhTeluTirhTutg 1cf3DevaGran",
  "1cf4DevaGranKndaTutg 1cf5BengDeva 1cf7Beng 1cf8DevaGran 1cfaNand 1cfbNone 1dc0Grek 1dc2None",
  "1df8CyrlLatnSyrc 1df9None 1dfaSyrc 1dfbNone 202fLatnMongPhag 2030None 204fAdlmArab 2050None",
  "205aCariGeorGlagHungLyciOrkh 205bNone 205dCariGrekHungMero 205eNone 20f0DevaGranLatn",
  "20f1None 2e17CoptLatn 2e18None 2e30AvstOrkh 2e31AvstCariGeorHungKthiLydiSamr 2e32None",
  "2e3cDupl 2e3dNone 2e41AdlmArabHung 2e42None 2e43CyrlGlag 2e44None 2ff0HaniTang 3000None",
  "3001BopoHangHaniHiraKanaMongYiii 3002BopoHangHaniHiraKanaMongPhagYiii",
  "3003BopoHangHaniHiraKana 3004None 3006Hani 3007None 3008BopoHangHaniHiraKanaMongTibtYiii",
  "300aBopoHangHaniHiraKanaLisuMongTibtYiii 300cBopoHangHaniHiraKanaYiii 3012None",
  "3013BopoHangHaniHiraKana 3014BopoHangHaniHiraKanaYiii 301cBopoHangHaniHiraKana 3020None",
  "302aBopoHani 302eNone 3030BopoHangHaniHiraKana 3031HiraKana 3036None",
  "3037BopoHangHaniHiraKana 3038None 303cHaniHiraKana 303eHani 3040None 3099HiraKana 309dNone",
  "30a0HiraKana 30a1None 30fbBopoHangHaniHiraKanaYiii 30fcHiraKana 30fdNone 3190Hani 31a0None",
  "31c0Hani 31e6None 31efHaniTang 31f0None 3220Hani 3248None 3280Hani 32b1None 32c0Hani",
  "32ccNone 32ffHani 3300None 3358Hani 3371None 337bHani 3380None 33e0Hani 33ffNone",
  "a66fCyrlGlag a670None a700HaniLatn a708None",
  "a830DevaDogrGujrGuruKhojKndaKthiMahjMlymModiNandShrdSindTakrTirhTutg",
  "a833DevaDogrGujrGuruKhojKndaKthiMahjModiNandShrdSindTakrTirhTutg",
  "a836DevaDogrGujrGuruKhojKthiMahjModiSindTakrTirh",
  "a838DevaDogrGujrGuruKhojKthiMahjModiShrdSindTakrTirh",
  "a839DevaDogrGujrGuruKhojKthiMahjModiSindTakrTirh a83aNone a8f1BengDevaTutg a8f2None",
  "a8f3DevaTaml a8f4None a92eKaliLatnMymr a92fNone a9cfBugiJava a9d0None fd3eArabNkoo fd40None",
  "fdf2ArabThaa fdf3None fdfdArabThaa fdfeNone fe45BopoHangHaniHiraKana fe47None",
  "ff61BopoHangHaniHiraKanaYiii ff66None ff70HiraKana ff71None ff9eHiraKana ffa0None",
  "10100CpmnCprtLinb 10102CprtLinb 10103None 10107CprtLinaLinb 10134None 10137CprtLinb",
  "10140None 102e0ArabCopt 102fcNone 10af2ManiOugr 10af3None 11301GranTaml 11302None",
  "11303GranTaml 11304None 1133bGranTaml 1133dNone 11fd0GranTaml 11fd2None 11fd3GranTaml",
  "11fd4None 1bca0Dupl 1bca4None 1d360Hani 1d372None 1f250Hani 1f252None"]

/-- The codes of four letters in a word. -/
def scriptCodes : List Char → List String
  | a :: b :: c :: d :: rest => String.ofList [a, b, c, d] :: scriptCodes rest
  | _ => []

/-- The runs, decoded. -/
def scriptExtensionRuns : Runs (List String) :=
  .ofLines (fun value => if value = "None" then [] else scriptCodes value.toList)
    scriptExtensionLines

/-- The scripts a character is in use in. -/
def scriptsOf (c : Char) : List String :=
  match scriptExtensionRuns.at? c.toNat with
  | some (code :: more) => code :: more
  | _ => [script c]

end Unicode

end FormValidity
