/-
Module: SafeDelete.Text.Word
Purpose: Which characters are parts of words, in every script.
Main exports: isWordChar
-/
import SafeDelete.Text.Runs

namespace SafeDelete

/-- Where the letters, marks, digits and connectors are and are not, as Unicode 15 has them. -/
def wordRuns : Runs :=
  Runs.ofLines [
    "n48y10n7y26n4y1n1y26n47y1n10y1n4y1n5y23n1y31n1y458n4y12n14y5n7y1n1y1n17y117n1y2n2y4n1y1n6y1",
    "n1y3n1y1n1y20n1y83n1y139n1y173n1y38n2y1n6y41n8y45n1y1n1y2n1y2n1y1n8y27n4y4n29y11n5y74n4y102",
    "n1y8n2y10n1y19n2y1n16y59n2y101n14y54n4y1n2y1n2y46n18y28n4y11n5y24n1y6n9y74n1y129n2y10n1y19n1",
    "y8n2y2n2y22n1y7n1y1n3y4n2y9n2y2n2y4n8y1n4y2n1y5n2y12n10y1n1y1n2y3n1y6n4y2n2y22n1y7n1y2n1y2n1",
    "y2n2y1n1y5n4y2n2y3n3y1n7y4n1y1n7y16n11y3n1y9n1y3n1y22n1y7n1y2n1y5n2y10n1y3n1y3n2y1n15y4n2y10",
    "n9y7n1y3n1y8n2y2n2y22n1y7n1y2n1y5n2y9n2y2n2y3n7y3n4y2n1y5n2y10n1y1n16y2n1y6n3y3n1y4n3y2n1y1",
    "n1y2n3y2n3y3n3y12n4y5n3y3n1y4n2y1n6y1n14y10n16y13n1y3n1y23n1y16n2y9n1y3n1y4n7y2n1y3n2y1n2y4",
    "n2y10n16y4n1y8n1y3n1y23n1y10n1y5n2y9n1y3n1y4n7y2n6y2n1y4n2y10n1y3n12y13n1y3n1y51n1y3n1y5n5y4",
    "n7y5n2y10n10y6n1y3n1y18n3y24n1y9n1y1n2y7n3y1n4y6n1y1n1y8n6y10n2y2n13y58n5y15n1y10n39y2n1y1n1",
    "y5n1y24n1y1n1y23n2y5n1y1n1y7n1y10n2y4n32y1n23y2n6y10n11y1n1y1n1y1n4y10n1y36n4y20n1y18n1y36n9",
    "y1n57y74n6y78n2y38n1y1n5y1n2y43n1y333n1y4n2y7n1y1n1y4n2y41n1y4n2y33n1y4n2y7n1y1n1y4n2y15n1",
    "y57n1y4n2y67n2y3n32y16n16y86n2y6n3y620n2y17n1y26n5y75n3y11n7y22n9y22n11y20n12y13n1y3n1y2n12",
    "y84n3y1n4y2n2y10n33y3n1y11n6y89n7y43n5y70n10y31n1y12n4y12n10y40n2y5n11y44n4y26n6y10n38y28n4",
    "y63n1y29n2y11n6y10n13y1n8y31n49y77n3y10n17y9n12y116n12y56n8y10n3y49n2y9n7y43n2y3n16y3n1y39n5",
    "y534n2y6n2y38n2y6n2y8n1y1n1y1n1y1n1y31n2y53n1y7n1y1n3y3n1y7n3y4n2y6n4y13n5y3n1y7n15y2n49y2",
    "n19y1n28y1n13y1n16y13n51y33n17y1n4y1n2y10n1y1n3y5n6y1n1y1n1y1n1y4n1y11n2y4n5y5n4y1n17y41n813",
    "y52n1814y229n6y9n12y38n1y1n5y1n2y56n7y1n15y24n9y7n1y7n1y7n1y7n1y7n1y7n1y7n1y7n1y32n47y1n469",
    "y3n25y15n1y5n2y5n4y86n2y2n2y3n1y90n1y4n5y43n1y94n17y32n48y16n512y6592n64y22157n67y46n2y269n3",
    "y28n20y51n1y10n1y115n37y9n2y103n2y64n5y2n1y1n1y5n24y54n4y1n19y52n12y70n10y10n6y24n3y1n1y49n2",
    "y36n12y29n3y65n14y11n6y31n1y55n9y14n2y10n6y23n3y73n24y3n2y16n2y5n10y6n2y6n2y6n9y7n1y7n1y43n1",
    "y14n6y123n1y2n2y10n6y11172n12y23n4y49n8452y366n2y106n38y7n12y5n5y12n1y13n1y5n1y1n1y2n1y2n1",
    "y108n33y363n18y64n2y54n40y12n4y16n16y16n3y2n24y3n32y5n1y135n19y10n7y26n4y1n1y26n11y89n3y6n2",
    "y6n2y6n2y3n35y12n1y26n1y19n1y2n1y15n2y14n34y123n69y53n136y1n130y29n3y49n15y1n31y32n13y30n5",
    "y43n5y30n2y36n4y8n1y5n42y158n2y10n6y36n4y36n4y40n8y52n12y11n1y15n1y7n1y2n1y11n1y15n1y7n1y2",
    "n67y311n9y22n10y8n24y6n1y42n1y9n69y6n2y1n1y44n1y2n3y1n2y23n10y23n9y31n65y19n1y2n10y22n10y26",
    "n70y56n6y2n64y4n1y2n5y8n1y3n1y29n2y3n4y1n32y29n3y29n35y8n1y30n25y54n10y22n10y19n13y18n110y73",
    "n55y51n13y51n13y40n8y10n326y42n1y2n3y2n75y32n10y1n8y33n31y22n42y21n27y23n9y71n31y16n9y60n7y1",
    "n13y25n7y10n6y53n1y10n4y4n8y36n2y1n9y69n4y4n1y13n1y1n35y18n1y37n6y4n62y7n1y1n1y4n1y15n1y10n7",
    "y59n5y10n6y4n1y8n2y2n2y22n1y7n1y2n1y5n1y10n2y2n2y3n2y1n6y1n5y7n2y7n3y5n139y75n5y10n4y4n30y70",
    "n1y1n8y10n166y54n2y9n23y6n34y65n3y1n11y10n38y57n7y10n54y27n2y15n4y10n6y7n185y59n101y74n21y8",
    "n2y1n2y8n1y2n1y30n1y2n2y9n12y10n70y8n2y46n2y8n1y2n27y63n8y1n8y74n3y1n18y73n263y9n1y45n1y9n15",
    "y10n24y30n2y22n1y14n73y7n1y2n1y44n3y1n1y2n1y9n8y10n6y6n1y2n1y37n1y2n1y6n7y10n310y23n9y17n1",
    "y41n3y5n13y10n86y1n79y922n102y111n17y196n2636y97n15y1072n16y22n4010y583n8633y569n7y31n1y10n6",
    "y79n1y10n6y30n2y5n11y55n9y4n12y10n9y21n5y19n688y64n128y75n4y57n7y17n64y2n1y2n11y2n14y6136n8",
    "y1238n42y9n8935y4n1y7n1y2n1y291n15y1n29y3n2y1n14y4n8y396n2308y107n5y13n3y9n7y10n3y2n4705y46",
    "n2y23n542y5n3y6n8y8n2y7n30y4n148y3n443y85n1y71n1y2n2y1n2y2n2y4n1y12n1y1n1y7n1y65n1y4n2y8n1y7",
    "n1y28n1y4n1y5n1y1n3y7n1y340n2y25n1y25n1y31n1y25n1y31n1y25n1y31n1y25n1y31n1y25n1y8n2y50n512",
    "y55n4y50n8y1n14y1n22y5n1y15n1104y31n6y6n213y7n1y17n2y7n1y2n1y5n5y62n33y1n112y45n3y14n2y10n4",
    "y1n321y31n17y58n470y42n742y7n1y4n1y2n1y15n1y197n11y7n41y76n4y10n1190y4n1y27n1y2n1y1n2y1n1y10",
    "n1y4n1y1n1y1n6y1n4y1n1y1n1y1n1y3n1y2n1y1n2y1n1y1n1y1n1y1n1y1n1y2n1y1n2y4n1y7n1y4n1y4n1y1n1",
    "y10n1y17n5y3n1y5n1y17n628y26n6y26n6y26n2662y10n1030y42720n32y4154n6y222n2y5762n14y7473n3103",
    "y542n1506y4939n5y4192n712016y240n196112"]

/-- The character is part of a word. -/
def isWordChar (c : Char) : Bool :=
  wordRuns.markAt c.toNat == "y"

end SafeDelete
