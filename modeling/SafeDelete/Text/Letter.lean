/-
Module: SafeDelete.Text.Letter
Purpose: Which characters are alphabetic, lowercase or uppercase, in every script.
Main exports: isAlphabetic, isLowercase, isUppercase
-/
import SafeDelete.Text.Runs

namespace SafeDelete

/-- Where alphabetic characters are and are not, as Unicode 15 has them. -/
def alphabeticRuns : Runs :=
  Runs.ofLines [
    "n65y26n6y26n47y1n10y1n4y1n5y23n1y31n1y458n4y12n14y5n7y1n1y1n86y1n42y5n1y2n2y4n1y1n6y1n1y3n1",
    "y1n1y20n1y83n1y139n8y166n1y38n2y1n6y41n39y14n1y1n1y2n1y2n1y1n8y27n4y4n29y11n5y56n1y7n14y102",
    "n1y8n4y8n4y3n10y3n2y1n16y48n13y101n24y33n9y2n4y1n5y24n2y19n19y25n7y11n5y24n1y6n17y42n10y12n3",
    "y7n6y76n1y16n1y3n4y15n13y19n1y8n2y2n2y22n1y7n1y1n3y4n3y8n2y2n2y2n1y1n8y1n4y2n1y5n12y2n10y1n4",
    "y3n1y6n4y2n2y22n1y7n1y2n1y2n1y2n4y5n4y2n2y2n4y1n7y4n1y1n17y6n11y3n1y9n1y3n1y22n1y7n1y2n1y5n3",
    "y9n1y3n1y2n3y1n15y4n21y4n4y3n1y8n2y2n2y22n1y7n1y2n1y5n3y8n2y2n2y2n9y2n4y2n1y5n13y1n16y2n1y6",
    "n3y3n1y4n3y2n1y1n1y2n3y2n3y3n3y12n4y5n3y3n1y3n3y1n6y1n40y13n1y3n1y23n1y16n3y8n1y3n1y3n8y2n1",
    "y3n2y1n2y4n28y4n1y8n1y3n1y23n1y10n1y5n3y8n1y3n1y3n8y2n6y2n1y4n13y3n12y13n1y3n1y41n2y8n1y3n1",
    "y3n1y1n5y4n7y5n22y6n1y3n1y18n3y24n1y9n1y1n2y7n8y6n1y1n1y8n18y2n13y58n5y7n6y1n51y2n1y1n1y5n1",
    "y24n1y1n1y19n1y3n2y5n1y1n6y1n14y4n32y1n63y8n1y36n4y19n4y16n1y36n67y55n1y1n2y5n16y64n10y4n2",
    "y38n1y1n5y1n2y43n1y333n1y4n2y7n1y1n1y4n2y41n1y4n2y33n1y4n2y7n1y1n1y4n2y15n1y57n1y4n2y67n37",
    "y16n16y86n2y6n3y620n2y17n1y26n5y75n3y11n7y20n11y21n12y20n12y13n1y3n1y2n12y52n2y19n14y1n4y1",
    "n67y89n7y43n5y70n10y31n1y12n4y9n23y30n2y5n11y44n4y26n54y28n4y63n2y20n50y1n23y2n11y3n49y52n1",
    "y15n1y8n51y42n2y4n10y44n1y11n14y55n22y3n10y36n2y9n7y43n2y3n41y4n1y6n1y2n3y1n5y192n39y14n11",
    "y278n2y6n2y38n2y6n2y8n1y1n1y1n1y1n1y31n2y53n1y7n1y1n3y3n1y7n3y4n2y6n4y13n5y3n1y7n116y1n13y1",
    "n16y13n101y1n4y1n2y10n1y1n3y5n6y1n1y1n1y1n1y4n1y11n2y4n5y5n4y1n17y41n813y52n1814y229n6y4n3y2",
    "n12y38n1y1n5y1n2y56n7y1n16y23n9y7n1y7n1y7n1y7n1y7n1y7n1y7n1y7n1y32n47y1n469y3n25y9n7y5n2y5n4",
    "y86n6y3n1y90n1y4n5y43n1y94n17y32n48y16n512y6592n64y22157n67y46n2y269n3y16n10y2n20y47n5y8n3",
    "y113n39y9n2y103n2y64n5y2n1y1n1y5n24y20n1y33n24y52n12y68n1y1n44y6n3y1n1y3n10y33n5y35n13y29n3",
    "y51n1y12n15y1n16y16n10y5n1y55n9y14n18y23n3y69n1y1n1y1n24y3n2y16n2y4n11y6n2y6n2y6n9y7n1y7n1",
    "y43n1y14n6y123n21y11172n12y23n4y49n8452y366n2y106n38y7n12y5n5y12n1y13n1y5n1y1n1y2n1y2n1y108",
    "n33y363n18y64n2y54n40y12n116y5n1y135n36y26n6y26n11y89n3y6n2y6n2y6n2y3n35y12n1y26n1y19n1y2n1",
    "y15n2y14n34y123n69y53n267y29n3y49n47y32n13y30n5y43n5y30n2y36n4y8n1y5n42y158n18y36n4y36n4y40",
    "n8y52n12y11n1y15n1y7n1y2n1y11n1y15n1y7n1y2n67y311n9y22n10y8n24y6n1y42n1y9n69y6n2y1n1y44n1y2",
    "n3y1n2y23n10y23n9y31n65y19n1y2n10y22n10y26n70y56n6y2n64y4n1y2n5y8n1y3n1y29n42y29n3y29n35y8n1",
    "y28n27y54n10y22n10y19n13y18n110y73n55y51n13y51n13y40n344y42n1y2n3y2n78y29n10y1n8y22n42y18n46",
    "y21n27y23n9y70n43y5n10y57n9y1n13y25n23y51n17y4n8y35n3y1n9y64n1y4n9y2n10y1n1y1n35y18n1y34n2y1",
    "n6y4n62y7n1y1n1y4n1y15n1y10n7y57n23y4n1y8n2y2n2y22n1y7n1y2n1y5n3y8n2y2n2y2n3y1n6y1n5y7n156",
    "y66n1y3n1y4n20y3n30y66n2y2n1y1n184y54n2y7n25y6n34y63n1y1n3y1n59y54n2y1n71y27n2y14n21y7n185",
    "y57n103y64n31y8n2y1n2y8n1y2n1y30n1y2n2y2n2y4n93y8n2y46n2y6n1y1n1y2n27y51n2y10n17y72n5y1n18",
    "y73n263y9n1y45n1y7n1y1n49y30n2y22n1y14n73y7n1y2n1y44n3y1n1y2n1y3n1y1n2y2n24y6n1y2n1y37n1y2n1",
    "y4n1y1n327y23n9y17n1y41n3y3n111y1n79y922n102y111n17y196n2636y97n15y1072n17y6n4025y583n8633",
    "y569n7y31n17y79n17y30n18y48n16y4n31y21n5y19n688y64n128y75n4y57n7y17n64y2n1y1n12y2n14y6136n8",
    "y1238n42y9n8935y4n1y7n1y2n1y291n15y1n29y3n2y1n14y4n8y396n2308y107n5y13n3y9n7y10n4y1n5985y85",
    "n1y71n1y2n2y1n2y2n2y4n1y12n1y1n1y7n1y65n1y4n2y8n1y7n1y28n1y4n1y5n1y1n3y7n1y340n2y25n1y25n1",
    "y31n1y25n1y31n1y25n1y31n1y25n1y31n1y25n1y8n1844y31n6y6n213y7n1y17n2y7n1y2n1y5n5y62n33y1n112",
    "y45n10y7n16y1n321y30n18y44n484y28n756y7n1y4n1y2n1y15n1y197n59y68n3y1n3y1n1204y4n1y27n1y2n1y1",
    "n2y1n1y10n1y4n1y1n1y1n6y1n4y1n1y1n1y1n1y3n1y2n1y1n2y1n1y1n1y1n1y1n1y1n1y2n1y1n2y4n1y7n1y4n1",
    "y4n1y1n1y10n1y17n5y3n1y5n1y17n628y26n6y26n6y26n3702y42720n32y4154n6y222n2y5762n14y7473n3103",
    "y542n1506y4939n5y4192n908368"]

/-- Where lowercase characters are and are not, as Unicode 15 has them. -/
def lowercaseRuns : Runs :=
  Runs.ofLines [
    "n97y26n47y1n10y1n4y1n36y24n1y8n1y1n1y1n1y1n1y1n1y1n1y1n1y1n1y1n1y1n1y1n1y1n1y1n1y1n1y1n1y1n1",
    "y1n1y1n1y1n1y1n1y1n1y1n1y1n1y1n1y1n1y1n1y1n1y1n1y2n1y1n1y1n1y1n1y1n1y1n1y1n1y1n1y2n1y1n1y1n1",
    "y1n1y1n1y1n1y1n1y1n1y1n1y1n1y1n1y1n1y1n1y1n1y1n1y1n1y1n1y1n1y1n1y1n1y1n1y1n1y1n1y1n2y1n1y1n1",
    "y3n2y1n1y1n2y1n3y2n4y1n2y1n3y3n2y1n2y1n1y1n1y1n2y1n1y2n1y1n2y1n3y1n1y1n2y2n2y3n6y1n2y1n2y1n1",
    "y1n1y1n1y1n1y1n1y1n1y1n1y1n1y2n1y1n1y1n1y1n1y1n1y1n1y1n1y1n1y1n1y2n2y1n1y1n3y1n1y1n1y1n1y1n1",
    "y1n1y1n1y1n1y1n1y1n1y1n1y1n1y1n1y1n1y1n1y1n1y1n1y1n1y1n1y1n1y1n1y1n1y1n1y1n1y1n1y1n1y1n1y1n1",
    "y1n1y1n1y7n2y1n2y2n1y1n4y1n1y1n1y1n1y1n1y69n1y36n7y2n30y5n96y1n43y1n1y1n3y1n2y4n18y1n27y35n1",
    "y2n3y3n1y1n1y1n1y1n1y1n1y1n1y1n1y1n1y1n1y1n1y1n1y1n1y5n1y1n2y1n2y2n51y48n1y1n1y1n1y1n1y1n1y1",
    "n1y1n1y1n1y1n1y1n1y1n1y1n1y1n1y1n1y1n1y1n1y1n1y1n9y1n1y1n1y1n1y1n1y1n1y1n1y1n1y1n1y1n1y1n1y1",
    "n1y1n1y1n1y1n1y1n1y1n1y1n1y1n1y1n1y1n1y1n1y1n1y1n1y1n1y1n1y1n1y1n2y1n1y1n1y1n1y1n1y1n1y1n1y2",
    "n1y1n1y1n1y1n1y1n1y1n1y1n1y1n1y1n1y1n1y1n1y1n1y1n1y1n1y1n1y1n1y1n1y1n1y1n1y1n1y1n1y1n1y1n1y1",
    "n1y1n1y1n1y1n1y1n1y1n1y1n1y1n1y1n1y1n1y1n1y1n1y1n1y1n1y1n1y1n1y1n1y1n1y1n1y1n1y1n1y1n1y1n1y1",
    "n1y1n1y1n48y41n2887y43n1y4n760y6n2178y9n119y192n65y1n1y1n1y1n1y1n1y1n1y1n1y1n1y1n1y1n1y1n1y1",
    "n1y1n1y1n1y1n1y1n1y1n1y1n1y1n1y1n1y1n1y1n1y1n1y1n1y1n1y1n1y1n1y1n1y1n1y1n1y1n1y1n1y1n1y1n1y1",
    "n1y1n1y1n1y1n1y1n1y1n1y1n1y1n1y1n1y1n1y1n1y1n1y1n1y1n1y1n1y1n1y1n1y1n1y1n1y1n1y1n1y1n1y1n1y1",
    "n1y1n1y1n1y1n1y1n1y1n1y1n1y1n1y1n1y1n1y1n1y1n1y1n1y1n1y1n1y1n1y1n1y1n1y9n1y1n1y1n1y1n1y1n1y1",
    "n1y1n1y1n1y1n1y1n1y1n1y1n1y1n1y1n1y1n1y1n1y1n1y1n1y1n1y1n1y1n1y1n1y1n1y1n1y1n1y1n1y1n1y1n1y1",
    "n1y1n1y1n1y1n1y1n1y1n1y1n1y1n1y1n1y1n1y1n1y1n1y1n1y1n1y1n1y1n1y1n1y1n1y1n1y1n1y1n1y9n8y6n10",
    "y8n8y8n8y6n10y8n8y8n8y14n2y8n8y8n8y8n8y5n1y2n6y1n3y3n1y2n8y4n2y2n8y8n10y3n1y2n121y1n13y1n16",
    "y13n109y1n3y2n3y1n27y1n4y1n4y1n2y2n8y4n4y1n33y16n4y1n843y26n1862y48n1y1n3y2n1y1n1y1n1y1n4y1",
    "n1y2n1y8n3y1n1y1n1y1n1y1n1y1n1y1n1y1n1y1n1y1n1y1n1y1n1y1n1y1n1y1n1y1n1y1n1y1n1y1n1y1n1y1n1y1",
    "n1y1n1y1n1y1n1y1n1y1n1y1n1y1n1y1n1y1n1y1n1y1n1y1n1y1n1y1n1y1n1y1n1y1n1y1n1y1n1y1n1y1n1y1n1y1",
    "n1y1n1y1n1y1n1y1n1y1n1y2n7y1n1y1n4y1n12y38n1y1n5y1n30995y1n1y1n1y1n1y1n1y1n1y1n1y1n1y1n1y1n1",
    "y1n1y1n1y1n1y1n1y1n1y1n1y1n1y1n1y1n1y1n1y1n1y1n1y1n1y1n19y1n1y1n1y1n1y1n1y1n1y1n1y1n1y1n1y1",
    "n1y1n1y1n1y1n1y1n1y3n133y1n1y1n1y1n1y1n1y1n1y1n1y3n1y1n1y1n1y1n1y1n1y1n1y1n1y1n1y1n1y1n1y1n1",
    "y1n1y1n1y1n1y1n1y1n1y1n1y1n1y1n1y1n1y1n1y1n1y1n1y1n1y1n1y1n1y1n1y1n1y1n1y1n1y1n1y10n1y1n1y1",
    "n2y1n1y1n1y1n1y1n1y1n4y1n1y1n2y1n1y3n1y1n1y1n1y1n1y1n1y1n1y1n1y1n1y1n1y1n1y1n5y1n5y1n1y1n1y1",
    "n1y1n1y1n1y1n1y1n1y1n4y1n1y1n6y1n1y1n1y1n1y1n1y1n24y3n1y1n1y3n821y43n1y14n6y80n20288y7n12y5",
    "n1065y26n1229y40n136y36n155y11n1y15n1y7n1y2n451y1n2y3n1y42n1y9n1285y51n3021y32n21888y32",
    "n26010y26n26y7n1y18n26y26n26y4n1y1n1y7n1y11n26y26n26y26n26y26n26y26n26y26n26y26n26y26n26y26",
    "n26y28n28y25n1y6n26y25n1y6n26y25n1y6n26y25n1y6n26y25n1y6n1y1n1844y10n1y20n6y6n261y62n2228y34",
    "n988860"]

/-- Where uppercase characters are and are not, as Unicode 15 has them. -/
def uppercaseRuns : Runs :=
  Runs.ofLines [
    "n65y26n101y23n1y7n33y1n1y1n1y1n1y1n1y1n1y1n1y1n1y1n1y1n1y1n1y1n1y1n1y1n1y1n1y1n1y1n1y1n1y1n1",
    "y1n1y1n1y1n1y1n1y1n1y1n1y1n1y1n1y1n1y1n2y1n1y1n1y1n1y1n1y1n1y1n1y1n1y1n2y1n1y1n1y1n1y1n1y1n1",
    "y1n1y1n1y1n1y1n1y1n1y1n1y1n1y1n1y1n1y1n1y1n1y1n1y1n1y1n1y1n1y1n1y1n1y1n1y2n1y1n1y1n3y2n1y1n1",
    "y2n1y3n2y4n1y2n1y3n3y2n1y2n1y1n1y1n1y2n1y1n2y1n1y2n1y3n1y1n1y2n3y1n7y1n2y1n2y1n2y1n1y1n1y1n1",
    "y1n1y1n1y1n1y1n1y1n2y1n1y1n1y1n1y1n1y1n1y1n1y1n1y1n1y1n2y1n2y1n1y3n1y1n1y1n1y1n1y1n1y1n1y1n1",
    "y1n1y1n1y1n1y1n1y1n1y1n1y1n1y1n1y1n1y1n1y1n1y1n1y1n1y1n1y1n1y1n1y1n1y1n1y1n1y1n1y1n1y1n1y1n7",
    "y2n1y2n2y1n1y4n1y1n1y1n1y1n1y1n289y1n1y1n3y1n8y1n6y1n1y3n1y1n1y2n1y17n1y9n35y1n2y3n3y1n1y1n1",
    "y1n1y1n1y1n1y1n1y1n1y1n1y1n1y1n1y1n1y1n5y1n2y1n1y2n2y51n48y1n1y1n1y1n1y1n1y1n1y1n1y1n1y1n1y1",
    "n1y1n1y1n1y1n1y1n1y1n1y1n1y1n1y1n9y1n1y1n1y1n1y1n1y1n1y1n1y1n1y1n1y1n1y1n1y1n1y1n1y1n1y1n1y1",
    "n1y1n1y1n1y1n1y1n1y1n1y1n1y1n1y1n1y1n1y1n1y1n1y1n1y2n1y1n1y1n1y1n1y1n1y1n1y1n2y1n1y1n1y1n1y1",
    "n1y1n1y1n1y1n1y1n1y1n1y1n1y1n1y1n1y1n1y1n1y1n1y1n1y1n1y1n1y1n1y1n1y1n1y1n1y1n1y1n1y1n1y1n1y1",
    "n1y1n1y1n1y1n1y1n1y1n1y1n1y1n1y1n1y1n1y1n1y1n1y1n1y1n1y1n1y1n1y1n1y1n1y1n1y1n1y1n1y1n2y38",
    "n2889y38n1y1n5y1n722y86n2202y43n2y3n320y1n1y1n1y1n1y1n1y1n1y1n1y1n1y1n1y1n1y1n1y1n1y1n1y1n1",
    "y1n1y1n1y1n1y1n1y1n1y1n1y1n1y1n1y1n1y1n1y1n1y1n1y1n1y1n1y1n1y1n1y1n1y1n1y1n1y1n1y1n1y1n1y1n1",
    "y1n1y1n1y1n1y1n1y1n1y1n1y1n1y1n1y1n1y1n1y1n1y1n1y1n1y1n1y1n1y1n1y1n1y1n1y1n1y1n1y1n1y1n1y1n1",
    "y1n1y1n1y1n1y1n1y1n1y1n1y1n1y1n1y1n1y1n1y1n1y1n1y1n1y1n1y1n1y1n9y1n1y1n1y1n1y1n1y1n1y1n1y1n1",
    "y1n1y1n1y1n1y1n1y1n1y1n1y1n1y1n1y1n1y1n1y1n1y1n1y1n1y1n1y1n1y1n1y1n1y1n1y1n1y1n1y1n1y1n1y1n1",
    "y1n1y1n1y1n1y1n1y1n1y1n1y1n1y1n1y1n1y1n1y1n1y1n1y1n1y1n1y1n1y1n1y1n1y1n1y1n9y8n8y6n10y8n8y8",
    "n8y6n11y1n1y1n1y1n1y1n8y8n72y4n12y4n12y4n12y5n11y4n262y1n4y1n3y3n2y3n2y1n3y5n6y1n1y1n1y1n1y4",
    "n2y4n10y2n5y1n26y16n19y1n818y26n1840y48n48y1n1y3n2y1n1y1n1y1n1y4n1y1n2y1n8y3n1y1n1y1n1y1n1y1",
    "n1y1n1y1n1y1n1y1n1y1n1y1n1y1n1y1n1y1n1y1n1y1n1y1n1y1n1y1n1y1n1y1n1y1n1y1n1y1n1y1n1y1n1y1n1y1",
    "n1y1n1y1n1y1n1y1n1y1n1y1n1y1n1y1n1y1n1y1n1y1n1y1n1y1n1y1n1y1n1y1n1y1n1y1n1y1n1y1n1y1n1y1n8y1",
    "n1y1n4y1n31053y1n1y1n1y1n1y1n1y1n1y1n1y1n1y1n1y1n1y1n1y1n1y1n1y1n1y1n1y1n1y1n1y1n1y1n1y1n1y1",
    "n1y1n1y1n1y1n19y1n1y1n1y1n1y1n1y1n1y1n1y1n1y1n1y1n1y1n1y1n1y1n1y1n1y1n135y1n1y1n1y1n1y1n1y1",
    "n1y1n1y1n3y1n1y1n1y1n1y1n1y1n1y1n1y1n1y1n1y1n1y1n1y1n1y1n1y1n1y1n1y1n1y1n1y1n1y1n1y1n1y1n1y1",
    "n1y1n1y1n1y1n1y1n1y1n1y1n1y1n1y1n1y1n1y1n10y1n1y1n1y2n1y1n1y1n1y1n1y1n4y1n1y1n2y1n1y1n3y1n1",
    "y1n1y1n1y1n1y1n1y1n1y1n1y1n1y1n1y1n1y5n1y5n1y1n1y1n1y1n1y1n1y1n1y1n1y1n1y4n1y1n6y1n5y1n1y1",
    "n28y1n22315y26n1221y40n136y36n156y11n1y15n1y7n1y2n1770y51n3053y32n21888y32n26016y26n26y26n26",
    "y26n26y1n1y2n2y1n2y2n2y4n1y8n26y26n26y2n1y4n2y8n1y7n27y2n1y4n1y5n1y1n3y7n27y26n26y26n26y26",
    "n26y26n26y26n26y26n30y25n33y25n33y25n33y25n33y25n33y1n4405y34n2062y26n6y26n6y26n986742"]

/-- The character is alphabetic. -/
def isAlphabetic (c : Char) : Bool :=
  alphabeticRuns.markAt c.toNat == "y"

/-- The character is lowercase. -/
def isLowercase (c : Char) : Bool :=
  lowercaseRuns.markAt c.toNat == "y"

/-- The character is uppercase. -/
def isUppercase (c : Char) : Bool :=
  uppercaseRuns.markAt c.toNat == "y"

end SafeDelete
